import Horoscope.Proofs.Text.Words
import Horoscope.Proofs.Wording.BirthClause
import Horoscope.Proofs.Wording.ClosingClause
import Horoscope.Wording.RuleText

set_option autoImplicit false

namespace Horoscope

def isInk (c : Char) : Bool := isClauseMark c || c.isAlpha

namespace Text

def AddsInk (before after : Text) : Prop := ∀ c ∈ after, c ∈ before ∨ isInk c = true

theorem adds_ink_of_subset (before after : Text) (kept : ∀ c ∈ after, c ∈ before) : AddsInk before after :=
  fun c member => .inl (kept c member)

theorem adds_ink_of_ink (before after : Text) (ink : after.all isInk = true) : AddsInk before after :=
  fun c member => .inr (List.all_eq_true.mp ink c member)

theorem adds_ink_trans (a b c : Text) (first : AddsInk a b) (second : AddsInk b c) : AddsInk a c := by
  intro d member
  rcases second d member with inMiddle | ink
  · exact first d inMiddle
  · exact .inr ink

theorem adds_ink_append (before a b : Text) (first : AddsInk before a) (second : AddsInk before b) :
    AddsInk before (a ++ b) := by
  intro c member
  rcases List.mem_append.mp member with inFirst | inSecond
  · exact first c inFirst
  · exact second c inSecond

theorem adds_ink_behind (c : Char) (before after : Text) (added : AddsInk before after) :
    AddsInk (c :: before) after :=
  fun d member => (added d member).imp_left (List.mem_cons_of_mem c)

-- The induction goes from character to character, those of a replaced place included.
theorem replace_all_adds_ink (read : Text → Option (Text × Text))
    (reads : ∀ text replacement after, read text = some (replacement, after) → AddsInk text replacement)
    (text : Text) : AddsInk text (replaceAll read text) := by
  suffices skipping : ∀ skipped, AddsInk text (replaceAfter read skipped text) from skipping 0
  induction text with
  | nil =>
      intro skipped c member
      rw [replaceAfter] at member
      cases member
  | cons c rest ih =>
      intro skipped
      cases skipped with
      | succ n => exact adds_ink_behind c _ _ (ih n)
      | zero =>
          cases found : read (c :: rest) with
          | none =>
              simp only [replaceAfter, found]
              exact adds_ink_append _ [c] _ (adds_ink_of_subset _ _ (by simp)) (adds_ink_behind c _ _ (ih 0))
          | some answer =>
              simp only [replaceAfter, found]
              exact adds_ink_append _ _ _ (reads _ _ _ found) (adds_ink_behind c _ _ (ih _))

end Text

namespace TimeClause

theorem birth_clause_ink (ranges : List BirthRange) : (birthClause ranges).all isInk = true := by
  obtain ⟨tail, written, marks⟩ := birth_clause_marks ranges
  have inked : tail.all isInk = true := by
    rw [List.all_eq_true] at marks ⊢
    intro c member
    rw [isInk, marks c member]
    rfl
  rw [written, List.all_append, List.all_cons, inked]
  decide

theorem restate_adds_ink (today : Date) (condition : Text) :
    Text.AddsInk condition (restate today condition) := by
  have unchanged : Text.AddsInk condition condition := Text.adds_ink_of_subset _ _ fun _ member => member
  cases found : find? condition with
  | none =>
      simp only [restate, found]
      exact unchanged
  | some pair =>
      obtain ⟨before, listed⟩ := pair
      rw [restate_of_some today condition before listed found]
      by_cases empty : listed.filterMap (BirthRange.ofPeriod? today) = []
      · rw [if_pos empty]
        exact unchanged
      · rw [if_neg empty]
        obtain ⟨m, first, -, rfl⟩ := (find_some_iff _ _ _).mp found
        obtain ⟨-, cut, -⟩ := mention_parts condition m (first_member condition m first)
        refine Text.adds_ink_append _ _ _ (Text.adds_ink_of_subset _ _ fun c member => ?_)
          (Text.adds_ink_of_ink _ _ (birth_clause_ink _))
        rw [cut]
        exact List.mem_append_left _ member

end TimeClause

namespace PlanetNames

theorem expand_adds_ink (text : Text) : Text.AddsInk text (expand text) := by
  intro c member
  obtain ⟨run, listed, inside⟩ := List.mem_flatMap.mp member
  unfold expandRun at inside
  cases abbreviated : Planet.ofAbbreviation? run with
  | none =>
      rw [abbreviated] at inside
      exact .inl (Text.run_member text run listed c inside)
  | some planet =>
      rw [abbreviated] at inside
      have letters : planet.name.all isInk = true := by
        cases planet <;> decide
      exact .inr (List.all_eq_true.mp letters c inside)

end PlanetNames

namespace Tidy

theorem unwrap_adds_ink (text : Text) : Text.AddsInk text (unwrap text) := by
  refine Text.replace_all_adds_ink readWrapper (fun place inside after read => ?_) text
  simp only [readWrapper, bind, Option.bind_eq_some_iff] at read
  obtain ⟨behind, word, ⟨content, rest⟩, grouped, filled⟩ := read
  obtain ⟨written, rfl, -⟩ := (Text.keyword_some_iff _ _ _).mp word
  obtain ⟨gap, cut, -⟩ := Text.skip_blanks_cut behind
  obtain ⟨opened, -⟩ := (Text.group_some_iff _ _ _).mp grouped
  by_cases empty : content.isEmpty = true
  · simp [empty] at filled
  · simp only [empty, Bool.false_eq_true, if_false, Option.some.injEq, Prod.mk.injEq] at filled
    obtain ⟨rfl, rfl⟩ := filled
    refine Text.adds_ink_of_subset _ _ fun c member => ?_
    rw [cut, opened]
    simp [member]

theorem space_adds_ink (word written : Text) (ink : written.all isInk = true) (text : Text) :
    Text.AddsInk text (Text.replaceAll (readOperator word written) text) := by
  refine Text.replace_all_adds_ink _ (fun place replacement after read => ?_) text
  simp only [readOperator, bind, Option.bind_eq_some_iff] at read
  obtain ⟨_, -, _, -, _, -, same⟩ := read
  cases same
  refine Text.adds_ink_of_ink _ _ ?_
  rw [List.all_append, List.all_cons, ink]
  decide

theorem tidy_adds_ink (text : Text) : Text.AddsInk text (tidy text) := by
  have unwrapped := unwrap_adds_ink text
  have conjoined := space_adds_ink "and".toList "AND".toList (by decide) (unwrap text)
  have disjoined := space_adds_ink "or".toList "OR".toList (by decide) (spaceAnd (unwrap text))
  refine Text.adds_ink_trans _ _ _ unwrapped (Text.adds_ink_trans _ _ _ conjoined ?_)
  exact Text.adds_ink_trans _ _ _ disjoined (Text.adds_ink_of_subset _ _ (Text.trim_member _))

end Tidy

theorem wording_adds_ink (today : Date) (condition : Text) : Text.AddsInk condition (wording today condition) := by
  refine Text.adds_ink_trans _ _ _ (TimeClause.restate_adds_ink today condition) ?_
  exact Text.adds_ink_trans _ _ _ (PlanetNames.expand_adds_ink _) (Tidy.tidy_adds_ink _)

theorem wording_one_line (today : Date) (condition : Text) (line : '\n' ∉ condition) :
    '\n' ∉ wording today condition := by
  intro broken
  rcases wording_adds_ink today condition '\n' broken with inCondition | ink
  · exact line inCondition
  · revert ink
    decide

end Horoscope
