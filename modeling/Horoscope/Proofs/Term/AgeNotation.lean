import Horoscope.Proofs.Results
import Horoscope.Proofs.Text.Front
import Horoscope.Term.Reader

set_option autoImplicit false

namespace Horoscope

def AgeItem (item : Text) (age : Nat) : Prop :=
  ∃ left sign figure right, item = left ++ (sign ++ figure) ++ right ∧
    Text.allBlank left = true ∧ Text.allBlank right = true ∧ (sign = [] ∨ sign = ['+']) ∧
      figure ≠ [] ∧ figure.all Char.isDigit = true ∧ Decimal.value figure = age ∧ age < UInt32.size

def AgesListed (content : Text) (listed : List Nat) : Prop :=
  ∃ items, items ≠ [] ∧ content = ['/'].intercalate items ∧ (∀ item ∈ items, '/' ∉ item) ∧
    (List.Forall₂ AgeItem items listed ∨
      (listed = [] ∧ ∃ item ∈ items, ∀ age, ¬ AgeItem item age))

def AgeClause (listed : List Nat) (written : Text) : Prop :=
  ∃ name gap content, written = name ++ gap ++ '(' :: (content ++ [')']) ∧ Spells "age".toList name ∧
    Text.allBlank gap = true ∧ ')' ∉ content ∧ AgesListed content listed

theorem split_apart (mark : Char) (text : Text) : ∀ item ∈ text.splitOn mark, mark ∉ item := by
  induction text with
  | nil => simp [List.splitOn_nil]
  | cons c tail ih =>
      rw [List.splitOn_cons_eq_if_modifyHead]
      obtain ⟨first, others, cut⟩ := List.exists_cons_of_ne_nil (List.splitOn_ne_nil mark tail)
      rw [cut] at ih ⊢
      by_cases same : (c == mark) = true
      · rw [if_pos same]
        intro item member
        rcases List.mem_cons.mp member with rfl | later
        · exact List.not_mem_nil
        · exact ih item later
      · rw [if_neg same, List.modifyHead_cons]
        intro item member
        rcases List.mem_cons.mp member with rfl | later
        · have different : mark ≠ c := fun equal => same (by rw [equal, beq_self_eq_true])
          have apart := ih first List.mem_cons_self
          simp [different, apart]
        · exact ih item (List.mem_cons_of_mem _ later)

theorem sign_number_solid (sign figure : Text) (signed : sign = [] ∨ sign = ['+']) (nonempty : figure ≠ [])
    (all : figure.all Char.isDigit = true) :
    (sign ++ figure).head?.any isBlank = false ∧ (sign ++ figure).getLast?.any isBlank = false := by
  have solid : ∀ c ∈ sign ++ figure, isBlank c = false := by
    intro c member
    rcases List.mem_append.mp member with inSign | inFigure
    · rcases signed with rfl | rfl
      · cases inSign
      · rw [List.mem_singleton.mp inSign]
        decide
    · exact alphanumeric_not_blank c (digit_alphanumeric c (List.all_eq_true.mp all c inFigure))
  have present : sign ++ figure ≠ [] := by
    intro empty
    exact nonempty (List.append_eq_nil_iff.mp empty).2
  rw [List.head?_eq_some_head present, List.getLast?_eq_some_getLast present]
  exact ⟨solid _ (List.head_mem present), solid _ (List.getLast_mem present)⟩

namespace Term

def readAge (item : Text) : Option Nat := (Decimal.read ageBound (Text.trim item)).toOption

theorem read_age_some_iff (item : Text) (age : Nat) : readAge item = some age ↔ AgeItem item age := by
  rw [readAge, Decimal.read_ok_iff]
  apply Iff.intro
  · intro form
    obtain ⟨sign, figure, cut, signed, nonempty, all, value, small⟩ := form
    obtain ⟨left, right, whole, leftBlank, rightBlank⟩ := Text.trim_cut item
    rw [cut] at whole
    exact ⟨left, sign, figure, right, whole, leftBlank, rightBlank, signed, nonempty, all, value, small⟩
  · intro form
    obtain ⟨left, sign, figure, right, rfl, leftBlank, rightBlank, signed, nonempty, all, value, small⟩
      := form
    obtain ⟨first, last⟩ := sign_number_solid sign figure signed nonempty all
    exact ⟨sign, figure, Text.trim_between _ _ _ leftBlank rightBlank first last, signed, nonempty, all,
      value, small⟩

theorem ages_of_iff (content : Text) (listed : List Nat) :
    agesOf content = listed ↔ AgesListed content listed := by
  have joined : content = ['/'].intercalate (content.splitOn '/') := (List.intercalate_splitOn '/').symm
  have item_iff : ∀ items ages, List.Forall₂ (fun item age => readAge item = some age) items ages ↔
      List.Forall₂ AgeItem items ages := by
    intro items ages
    simp only [read_age_some_iff]
  have spoiled_iff : ∀ items : List Text, items.mapM readAge = none ↔
      ∃ item ∈ items, ∀ age, ¬ AgeItem item age := by
    intro items
    rw [results_none_iff]
    simp only [Option.eq_none_iff_forall_ne_some, ne_eq, read_age_some_iff]
  change ((content.splitOn '/').mapM readAge).getD [] = listed ↔ _
  apply Iff.intro
  · intro read
    refine ⟨content.splitOn '/', List.splitOn_ne_nil _ _, joined, split_apart '/' content, ?_⟩
    · cases found : (content.splitOn '/').mapM readAge with
      | none =>
          rw [found] at read
          exact .inr ⟨read.symm, (spoiled_iff _).mp found⟩
      | some ages =>
          rw [found] at read
          cases read
          exact .inl ((item_iff _ _).mp ((results_some_iff _ _ _).mp found))
  · intro form
    obtain ⟨items, nonempty, rfl, apart, reading⟩ := form
    rw [List.splitOn_intercalate '/' apart nonempty]
    rcases reading with all | ⟨rfl, spoiled⟩
    · rw [(results_some_iff _ _ _).mpr ((item_iff _ _).mpr all)]
      rfl
    · rw [(spoiled_iff _).mpr spoiled]
      rfl

theorem age_item_chars (item : Text) (age : Nat) (read : AgeItem item age) :
    ∀ c ∈ item, isBlank c = true ∨ c = '+' ∨ c.isDigit = true := by
  obtain ⟨left, sign, figure, right, rfl, leftBlank, rightBlank, signed, -, all, -⟩ := read
  intro c member
  simp only [List.mem_append] at member
  rcases member with (inLeft | inSign | inFigure) | inRight
  · exact .inl (List.all_eq_true.mp leftBlank c inLeft)
  · rcases signed with rfl | rfl
    · cases inSign
    · exact .inr (.inl (List.mem_singleton.mp inSign))
  · exact .inr (.inr (List.all_eq_true.mp all c inFigure))
  · exact .inl (List.all_eq_true.mp rightBlank c inRight)

theorem ages_of_spoiled (content : Text) (c : Char) (member : c ∈ content) (noSlash : c ≠ '/')
    (foreign : ¬ (isBlank c = true ∨ c = '+' ∨ c.isDigit = true)) : agesOf content = [] := by
  rw [ages_of_iff]
  have joined : content = ['/'].intercalate (content.splitOn '/') := (List.intercalate_splitOn '/').symm
  refine ⟨content.splitOn '/', List.splitOn_ne_nil _ _, joined, split_apart '/' content, .inr ⟨rfl, ?_⟩⟩
  have inItem : ∃ item ∈ content.splitOn '/', c ∈ item := by
    rw [joined] at member
    rcases mem_joined _ _ _ member with atMark | found
    · exact absurd (List.mem_singleton.mp atMark) noSlash
    · exact found
  obtain ⟨item, listed, inside⟩ := inItem
  exact ⟨item, listed, fun age read => foreign (age_item_chars item age read c inside)⟩

theorem read_ages_some_iff (text rest : Text) (t : Term) :
    readAges text = some (t, rest) ↔
      ∃ listed written, t = ages listed ∧ text = written ++ rest ∧ AgeClause listed written := by
  apply Iff.intro
  · intro read
    simp only [readAges, bind, Option.bind_eq_some_iff, Prod.exists, Option.some.injEq, pure,
      Prod.mk.injEq] at read
    obtain ⟨afterName, nameRead, content, afterGroup, groupRead, rfl, rfl⟩ := read
    obtain ⟨name, rfl, spelled⟩ := (Text.keyword_some_iff _ _ _).mp nameRead
    obtain ⟨gap, cut, blank, -⟩ := Text.skip_blanks_cut afterName
    obtain ⟨opened, inside⟩ := (Text.group_some_iff _ _ _).mp groupRead
    refine ⟨agesOf content, name ++ gap ++ '(' :: (content ++ [')']), rfl, ?_, name, gap, content, rfl,
      spelled, blank, inside, (ages_of_iff _ _).mp rfl⟩
    rw [cut, opened]
    simp
  · intro form
    obtain ⟨listed, written, rfl, rfl, name, gap, content, rfl, spelled, blank, inside, reading⟩ := form
    have grouped := (Text.group_some_iff _ content rest).mpr ⟨rfl, inside⟩
    simp only [List.append_assoc, List.cons_append, List.nil_append]
    rw [readAges, Text.keyword_append _ _ _ spelled]
    simp only [bind, Option.bind_some]
    rw [Text.skip_blanks_append _ _ blank, Text.skip_blanks_fixed _ rfl, grouped]
    simp only [Option.bind_some, pure, (ages_of_iff _ _).mpr reading]

end Term
end Horoscope
