import Horoscope.Proofs.Bank.Rows
import Horoscope.Proofs.Term.Written
import Horoscope.Proofs.Text.Words

set_option autoImplicit false

namespace Horoscope

namespace Bank

theorem number_of_gap (c : Char) (tail : Text) (other : isWordChar c = false) :
    numberOfRun? (c :: tail) = none := by
  have notDigit : c.isDigit = false := by
    cases digit : c.isDigit with
    | false => rfl
    | true =>
        have word := digit_word c digit
        rw [other] at word
        cases word
  simp [numberOfRun?, notDigit]

theorem number_some_iff (run : Text) (n : Nat) :
    numberOfRun? run = some n ↔ run.all Char.isDigit = true ∧ Decimal.value run = n := by
  rw [numberOfRun?, Option.ite_none_right_eq_some, Option.some.injEq]

theorem ranked_words (bank : Bank) (answer : Text) :
    bank.rankedIds answer = ((Text.words answer).filterMap numberOfRun?).filter bank.hasRow := by
  rw [rankedIds, Text.runs_words numberOfRun? number_of_gap]

theorem ranked_break (bank : Bank) (a b : Text) (c : Char) (other : isWordChar c = false) :
    bank.rankedIds (a ++ c :: b) = bank.rankedIds a ++ bank.rankedIds b := by
  simp only [ranked_words, Text.words_break a b c other, List.filterMap_append, List.filter_append]

theorem ranked_gap (bank : Bank) (gap rest : Text) (none : gap.all (fun c => !isWordChar c) = true) :
    bank.rankedIds (gap ++ rest) = bank.rankedIds rest := by
  simp only [ranked_words, Text.words_gap gap rest none]

theorem ranked_number (bank : Bank) (id : Nat) (rest : Text) (row : bank.hasRow id = true)
    (ended : rest.head?.any isWordChar = false) :
    bank.rankedIds (Decimal.write id ++ rest) = id :: bank.rankedIds rest := by
  have digits := Decimal.write_digits id
  have word : (Decimal.write id).all isWordChar = true := by
    rw [List.all_eq_true] at digits ⊢
    exact fun c member => digit_word c (digits c member)
  have number : numberOfRun? (Decimal.write id) = some id := by
    rw [numberOfRun?, if_pos digits, Decimal.value_write]
  simp only [ranked_words, Text.words_word_append _ rest (Decimal.write_nonempty id) word ended]
  rw [List.filterMap_cons_some number, List.filter_cons_of_pos row]

theorem ranked_none (bank : Bank) (text : Text) (none : text.all (fun c => !c.isDigit) = true) :
    bank.rankedIds text = [] := by
  have numbers : (Text.runs text).filterMap numberOfRun? = [] := by
    rw [List.filterMap_eq_nil_iff]
    intro run listed
    obtain ⟨c, tail, rfl⟩ := List.exists_cons_of_ne_nil (List.ne_nil_of_mem_splitBy listed)
    have member := Text.run_member text _ listed c List.mem_cons_self
    have notDigit : c.isDigit = false := by simpa using List.all_eq_true.mp none c member
    simp [numberOfRun?, notDigit]
  rw [rankedIds, numbers]
  rfl

-- Ids in digits. Behind each stands some mark that no word has a part in; the last can go without.
inductive Listed : List Nat → Text → Prop
  | none : Listed [] []
  | one (id : Nat) : Listed [id] (Decimal.write id)
  | more (id : Nat) (mark : Text) (ids : List Nat) (text : Text) (wide : mark ≠ [])
      (apart : mark.all (fun c => !isWordChar c) = true) (further : Listed ids text) :
      Listed (id :: ids) (Decimal.write id ++ (mark ++ text))

theorem ranked_listed (bank : Bank) (ids : List Nat) (text rest : Text) (listed : Listed ids text)
    (addressed : bank.Addresses ids) (ended : rest.head?.any isWordChar = false) :
    bank.rankedIds (text ++ rest) = ids ++ bank.rankedIds rest := by
  rw [addresses_iff] at addressed
  induction listed with
  | none => rfl
  | one id => exact bank.ranked_number id rest (addressed id List.mem_cons_self) ended
  | more id mark ids text wide apart _ ih =>
      have row := addressed id List.mem_cons_self
      have later := ih fun other member => addressed other (List.mem_cons_of_mem _ member)
      have stopped : (mark ++ (text ++ rest)).head?.any isWordChar = false := by
        obtain ⟨c, tail, rfl⟩ := List.exists_cons_of_ne_nil wide
        simpa using List.all_eq_true.mp apart c List.mem_cons_self
      rw [List.append_assoc, List.append_assoc, bank.ranked_number id _ row stopped,
        bank.ranked_gap mark _ apart, later, List.cons_append]

theorem listed_intercalate (mark : Text) (ids : List Nat) (wide : mark ≠ [])
    (apart : mark.all (fun c => !isWordChar c) = true) :
    Listed ids (mark.intercalate (ids.map Decimal.write)) := by
  induction ids with
  | nil => exact .none
  | cons id ids ih =>
      cases ids with
      | nil =>
          rw [List.map_singleton, List.intercalate_singleton]
          exact .one id
      | cons next others =>
          rw [List.map_cons, List.map_cons, List.intercalate_cons_cons, List.append_assoc]
          exact .more id mark (next :: others) _ wide apart ih

def listedIds (bank : Bank) : List Nat :=
  (bank.rows.filter fun row => !Text.allBlank row.rule.result).map Row.id

theorem mem_listed_ids_iff (bank : Bank) (id : Nat) :
    id ∈ bank.listedIds ↔ ∃ row, bank.row? id = some row ∧ Text.trim row.rule.result ≠ [] := by
  simp only [listedIds, List.mem_map, List.mem_filter, row_some_iff, ne_eq, Text.trim_eq_nil_iff,
    Bool.not_eq_true', Bool.not_eq_true]
  apply exists_congr
  intro row
  exact and_right_comm

theorem listed_ids_ascending (bank : Bank) : bank.listedIds.Pairwise (· < ·) :=
  bank.rows_ascending.sublist (List.filter_sublist.map Row.id)

theorem ranked_line (bank : Bank) (row : Row) (listed : row ∈ bank.rows) (rest : Text) :
    bank.rankedIds (row.catalogueLine ++ rest) =
      row.id :: (bank.rankedIds (Text.trim row.rule.result) ++ bank.rankedIds rest) := by
  have line : row.catalogueLine ++ rest =
      Decimal.write row.id ++ (". ".toList ++ (Text.trim row.rule.result ++ '\n' :: rest)) := by
    simp [Row.catalogueLine]
  rw [line, bank.ranked_number row.id _ (bank.listed_row row listed) rfl,
    bank.ranked_gap ". ".toList _ (by decide), bank.ranked_break _ rest '\n' rfl]

theorem ranked_lines (bank : Bank) (rows : List Row) (listed : ∀ row ∈ rows, row ∈ bank.rows) :
    bank.rankedIds (rows.flatMap Row.catalogueLine) =
      rows.flatMap fun row => row.id :: bank.rankedIds (Text.trim row.rule.result) := by
  induction rows with
  | nil => rfl
  | cons row rows ih =>
      have later := ih fun other member => listed other (List.mem_cons_of_mem _ member)
      rw [List.flatMap_cons, List.flatMap_cons, bank.ranked_line row (listed row List.mem_cons_self), later]
      rfl

theorem ids_sublist (rows : List Row) (others : Row → List Nat) :
    (rows.map Row.id).Sublist (rows.flatMap fun row => row.id :: others row) := by
  induction rows with
  | nil => exact .slnil
  | cons row rows ih =>
      rw [List.map_cons, List.flatMap_cons, List.cons_append]
      exact (ih.trans (List.sublist_append_right _ _)).cons_cons row.id

theorem catalogue_read_back (bank : Bank) :
    (∀ id, id ∈ bank.listedIds ↔ ∃ row, bank.row? id = some row ∧ Text.trim row.rule.result ≠ []) ∧
    bank.listedIds.Pairwise (· < ·) ∧
    bank.listedIds.Sublist (bank.rankedIds bank.catalogue) ∧
    ((∀ rule ∈ bank.rules, ∀ c ∈ rule.result, isDecimalDigit c = false) →
      bank.rankedIds bank.catalogue = bank.listedIds) := by
  have read : bank.rankedIds bank.catalogue =
      (bank.rows.filter fun row => !Text.allBlank row.rule.result).flatMap fun row =>
        row.id :: bank.rankedIds (Text.trim row.rule.result) :=
    bank.ranked_lines _ fun row kept => (List.mem_filter.mp kept).1
  refine ⟨bank.mem_listed_ids_iff, bank.listed_ids_ascending, ?_, fun undigited => ?_⟩
  · rw [read]
    exact ids_sublist _ _
  · have silent : ∀ row ∈ bank.rows, bank.rankedIds (Text.trim row.rule.result) = [] := by
      intro row listed
      apply bank.ranked_none
      rw [List.all_eq_true]
      intro c member
      have plain := undigited row.rule (bank.rule_listed row listed) c (Text.trim_member _ c member)
      cases digit : c.isDigit with
      | false => rfl
      | true =>
          rw [digit_decimal c digit] at plain
          cases plain
    rw [read, listedIds, List.map_eq_flatMap]
    refine List.flatMap_congr fun row kept => ?_
    rw [silent row (List.mem_filter.mp kept).1]

def letteredResults : Bank :=
  ⟨[⟨[], "Wealth.\nFame_x".toList⟩, ⟨[], " \t".toList⟩, ⟨[], "Ⅳ ²".toList⟩]⟩

theorem lettered_results_read_back :
    (∀ rule ∈ letteredResults.rules, ∀ c ∈ rule.result, isDecimalDigit c = false) ∧
      letteredResults.rankedIds letteredResults.catalogue = [2, 4] := by
  have plain : ∀ rule ∈ letteredResults.rules, ∀ c ∈ rule.result, isDecimalDigit c = false := by
    have check : letteredResults.rules.all (fun rule => rule.result.all fun c => !isDecimalDigit c) = true := by
      decide
    intro rule listed c member
    simpa using List.all_eq_true.mp (List.all_eq_true.mp check rule listed) c member
  obtain ⟨-, -, -, same⟩ := letteredResults.catalogue_read_back
  exact ⟨plain, same plain⟩

example : rankedIds ⟨[⟨[], "3 or 9".toList⟩, ⟨[], "30".toList⟩]⟩ "2. 3 or 9\n3. 30".toList = [2, 3, 3] := by
  decide

end Bank
end Horoscope
