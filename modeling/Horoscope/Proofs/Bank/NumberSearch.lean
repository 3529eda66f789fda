import Horoscope.Bank.NumberSearch
import Horoscope.Proofs.Bank.Ranking
import Horoscope.Proofs.Text.Search

set_option autoImplicit false

namespace Horoscope

namespace NumberSearch

theorem prose_digit_word (c : Char) (digit : isProseDigit c = true) : isWordChar c = true := by
  rw [isProseDigit, Bool.and_eq_true] at digit
  rw [isWordChar, digit.1, digit.2]
  simp

theorem digit_prose (c : Char) (digit : c.isDigit = true) : isProseDigit c = true := by
  have word := digit_word c digit
  rw [isWordChar, Bool.and_eq_true] at word
  rw [isProseDigit, digit_decimal c digit, word.2]
  rfl

theorem digits_none (text : Text) (ended : text.head?.any isProseDigit = false) :
    digitsToBoundary text = none := by
  cases text with
  | nil => rfl
  | cons c rest =>
      have other : isProseDigit c ≠ true := by simpa using ended
      rw [digitsToBoundary, if_neg other]

-- Between two characters of a word no word ends, so the digits are those of the whole word or none.
theorem digits_word (c : Char) (run rest : Text) (all : (c :: run).all isWordChar = true)
    (ended : rest.head?.any isWordChar = false) :
    digitsToBoundary (c :: run ++ rest) =
      if (c :: run).all isProseDigit then some (c :: run, rest) else none := by
  induction run generalizing c with
  | nil =>
      rw [List.all_cons, Bool.and_eq_true] at all
      by_cases digit : isProseDigit c = true
      · have undigited : rest.head?.any isProseDigit = false := by
          cases rest with
          | nil => rfl
          | cons d others =>
              have other : isWordChar d = false := by simpa using ended
              cases further : isProseDigit d with
              | false => simpa using further
              | true =>
                  rw [prose_digit_word d further] at other
                  cases other
        have bounded : NameSearch.boundary (some c) rest.head? = true := by
          rw [NameSearch.boundary, Option.any_some, all.1, ended]
          rfl
        simp [digitsToBoundary, digit, digits_none rest undigited, bounded]
      · simp [digitsToBoundary, digit]
  | cons d run ih =>
      rw [List.all_cons, Bool.and_eq_true] at all
      have further := ih d all.2
      have joined : NameSearch.boundary (some c) (some d) = false := by
        rw [List.all_cons, Bool.and_eq_true] at all
        rw [NameSearch.boundary, Option.any_some, Option.any_some, all.1, all.2.1]
        rfl
      by_cases digit : isProseDigit c = true
      · rw [List.cons_append, digitsToBoundary, if_pos digit, further, List.all_cons (a := c), digit,
          Bool.true_and]
        by_cases others : (d :: run).all isProseDigit = true
        · simp only [if_pos others]
        · simp only [if_neg others]
          rw [List.cons_append, List.head?_cons, joined]
          rfl
      · have other : (c :: d :: run).all isProseDigit ≠ true := by
          rw [List.all_cons, Ne, Bool.and_eq_true]
          exact fun both => digit both.1
        rw [List.cons_append, digitsToBoundary, if_neg digit, if_neg other]

theorem finder_whole_words : Text.WholeWords findHere fun run => run.all isProseDigit where
  apart := by
    intro before c rest apart
    rw [findHere]
    by_cases bounded : NameSearch.boundary before (c :: rest).head? = true
    · rw [if_pos bounded]
      apply digits_none
      cases digit : isProseDigit c with
      | false => simpa using digit
      | true =>
          have word := prose_digit_word c digit
          rw [NameSearch.boundary, List.head?_cons, Option.any_some, word] at bounded
          rcases apart with gap | inside
          · rw [word] at gap
            cases gap
          · rw [inside] at bounded
            cases bounded
    · rw [if_neg bounded]
  word := by
    intro before run rest outside nonempty all ended
    obtain ⟨c, tail, rfl⟩ := List.exists_cons_of_ne_nil nonempty
    have bounded : NameSearch.boundary before (c :: tail ++ rest).head? = true := by
      rw [List.all_cons, Bool.and_eq_true] at all
      rw [NameSearch.boundary, outside, List.cons_append, List.head?_cons, Option.any_some, all.1]
      rfl
    rw [findHere, if_pos bounded, digits_word c tail rest all ended]

theorem read_prose_digits (bound : Nat) (run : Text) (id : Nat) (digits : run.all isProseDigit = true) :
    (Decimal.read bound run).toOption = some id ↔
      run ≠ [] ∧ run.all Char.isDigit = true ∧ Decimal.value run = id ∧ id < bound := by
  rw [Decimal.read_ok_iff]
  apply Iff.intro
  · intro form
    obtain ⟨sign, figure, rfl, signed, number⟩ := form
    rcases signed with rfl | rfl
    · exact number
    · cases digits
  · intro number
    exact ⟨[], run, rfl, .inl rfl, number⟩

-- A number that is too large for its reader is too large for the bank.
theorem found_number (bound : Nat) (bank : Bank) (fits : bank.endId ≤ bound) (run : Text) :
    (if run.all isProseDigit then (Decimal.read bound run).toOption else none).filter bank.hasRow =
      (Bank.numberOfRun? run).filter bank.hasRow := by
  ext id
  rw [Option.filter_eq_some_iff, Option.filter_eq_some_iff, and_congr_left_iff]
  intro row
  have within : Bank.firstId ≤ id ∧ id < bank.endId := by simpa [Bank.hasRow] using row
  by_cases digits : run.all isProseDigit = true
  · rw [if_pos digits, read_prose_digits bound run id digits, Bank.number_some_iff]
    apply Iff.intro
    · intro form
      exact ⟨form.2.1, form.2.2.1⟩
    · intro form
      obtain ⟨plain, rfl⟩ := form
      refine ⟨?_, plain, rfl, Nat.lt_of_lt_of_le within.2 fits⟩
      rintro rfl
      cases within.1
  · rw [if_neg digits, Bank.number_some_iff]
    refine iff_of_false (Option.some_ne_none id).symm fun form => digits ?_
    rw [List.all_eq_true] at form ⊢
    exact fun c member => digit_prose c (form.1 c member)

theorem ranked_eq_search (bound : Nat) (bank : Bank) (fits : bank.endId ≤ bound) (answer : Text) :
    rankedIds bound bank answer = bank.rankedIds answer := by
  rw [rankedIds, Text.finds_words finder_whole_words, List.filterMap_filter, List.filter_filterMap,
    Bank.ranked_words, List.filter_filterMap]
  simp only [found_number bound bank fits]

end NumberSearch

namespace Bank

def namedId? (bank : Bank) (run : Text) : Option Nat :=
  if run.all Char.isDigit ∧ 2 ≤ Decimal.value run ∧ Decimal.value run ≤ bank.size + 1 then
    some (Decimal.value run)
  else none

theorem named_id_iff (bank : Bank) (run : Text) (id : Nat) :
    bank.namedId? run = some id ↔
      run.all Char.isDigit = true ∧ Decimal.value run = id ∧ 2 ≤ id ∧ id ≤ bank.size + 1 := by
  rw [namedId?, Option.ite_none_right_eq_some, Option.some.injEq]
  apply Iff.intro
  · intro form
    obtain ⟨⟨plain, least, most⟩, rfl⟩ := form
    exact ⟨plain, rfl, least, most⟩
  · intro form
    obtain ⟨plain, rfl, least, most⟩ := form
    exact ⟨⟨plain, least, most⟩, rfl⟩

theorem has_row_bounds (bank : Bank) (id : Nat) : bank.hasRow id = true ↔ 2 ≤ id ∧ id ≤ bank.size + 1 := by
  rw [hasRow, Bool.and_eq_true, decide_eq_true_iff, decide_eq_true_iff, endId, firstId]
  omega

theorem ranked_runs (bank : Bank) (answer : Text) :
    bank.rankedIds answer = (Text.runs answer).filterMap bank.namedId? := by
  rw [rankedIds, List.filter_filterMap]
  refine List.filterMap_congr fun run _ => ?_
  ext id
  rw [Option.filter_eq_some_iff, number_some_iff, has_row_bounds, named_id_iff, and_assoc]

theorem named_padded (bank : Bank) (width id : Nat) (row : bank.hasRow id = true) :
    bank.namedId? (Date.padded width id) = some id :=
  (bank.named_id_iff _ id).mpr
    ⟨Date.padded_digits width id, Date.padded_value width id, (bank.has_row_bounds id).mp row⟩

theorem answered_ids_exact (bank : Bank) (answer : Text) :
    (∀ bound, bank.endId ≤ bound → NumberSearch.rankedIds bound bank answer = bank.rankedIds answer) ∧
    ((Text.runs answer).flatten = answer ∧ Text.Alternating (Text.runs answer)) ∧
    bank.rankedIds answer = (Text.runs answer).filterMap bank.namedId? ∧
    (∀ run c, c ∈ run → c.isDigit = false → bank.namedId? run = none) ∧
    (∀ width id, bank.hasRow id = true → bank.namedId? (Date.padded width id) = some id) ∧
    (∀ ids, Listed ids answer → bank.Addresses ids → bank.rankedIds answer = ids) := by
  refine ⟨fun bound fits => NumberSearch.ranked_eq_search bound bank fits answer, Text.runs_alternate answer,
    bank.ranked_runs answer, ?_, bank.named_padded, ?_⟩
  · intro run c member other
    rw [Option.eq_none_iff_forall_ne_some]
    intro id named
    have digit := List.all_eq_true.mp ((bank.named_id_iff run id).mp named).1 c member
    rw [other] at digit
    cases digit
  · intro ids listed addressed
    have read := bank.ranked_listed ids answer [] listed addressed rfl
    rwa [List.append_nil, bank.ranked_none [] rfl, List.append_nil] at read

def sixRules : Bank := ⟨List.replicate 6 ⟨[], []⟩⟩

def crowdedAnswer : Text := "007, x2 ٣ 4_ 5\u0301 18446744073709551618 or 3".toList

theorem crowded_answer_read :
    (sixRules.endId ≤ 2 ^ 64 ∧ NumberSearch.rankedIds (2 ^ 64) sixRules crowdedAnswer = [7, 3]) ∧
      ('٣' ∈ "٣".toList ∧ '٣'.isDigit = false ∧ sixRules.namedId? "٣".toList = none) ∧
      (sixRules.hasRow 7 = true ∧ sixRules.namedId? (Date.padded 3 7) = some 7) ∧
      (Listed [7, 3] "7, 3".toList ∧ sixRules.Addresses [7, 3] ∧ sixRules.rankedIds "7, 3".toList = [7, 3]) := by
  have fits : sixRules.endId ≤ 2 ^ 64 := by decide
  have addressed : sixRules.Addresses [7, 3] := (sixRules.addresses_iff [7, 3]).mpr (by decide)
  have written : Listed [7, 3] "7, 3".toList :=
    listed_intercalate ", ".toList [7, 3] (List.cons_ne_nil _ _) (by decide)
  obtain ⟨search, -, runs, other, zeros, -⟩ := sixRules.answered_ids_exact crowdedAnswer
  obtain ⟨-, -, -, -, -, listed⟩ := sixRules.answered_ids_exact "7, 3".toList
  have named : (Text.runs crowdedAnswer).filterMap sixRules.namedId? = [7, 3] := by decide +kernel
  exact ⟨⟨fits, (search _ fits).trans (runs.trans named)⟩,
    ⟨List.mem_singleton_self _, rfl, other _ '٣' (List.mem_singleton_self _) rfl⟩,
    ⟨rfl, zeros 3 7 rfl⟩, ⟨written, addressed, listed _ written addressed⟩⟩

end Bank
end Horoscope
