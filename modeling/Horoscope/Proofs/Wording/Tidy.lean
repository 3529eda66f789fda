import Horoscope.Proofs.Text.Front
import Horoscope.Proofs.Text.Passes
import Horoscope.Wording.Tidy
import Mathlib.Data.List.Chain

set_option autoImplicit false

namespace Horoscope

namespace Tidy

theorem operator_none_of_solid (word written rest : Text) (c : Char) (solid : isBlank c = false) :
    readOperator word written (c :: rest) = none := by
  simp [readOperator, Text.blanks, solid, bind]

theorem operator_none_of_gap (word written gap rest : Text) (wide : Gap gap)
    (solid : rest.head?.any isBlank = false) (absent : Text.keyword word rest = none) :
    readOperator word written (gap ++ rest) = none := by
  rw [readOperator, Text.blanks_append gap rest wide solid]
  simp [bind, absent]

theorem operator_taken (word written left letters right rest : Text) (leftWide : Gap left)
    (spelled : Spells word letters) (rightWide : Gap right)
    (letter : word.head?.any Char.isAlphanum = true) (solid : rest.head?.any isBlank = false) :
    readOperator word written (left ++ letters ++ right ++ rest) = some (' ' :: written ++ [' '], rest) := by
  simp only [List.append_assoc]
  rw [readOperator, Text.blanks_append left _ leftWide (spells_solid word letters _ spelled letter)]
  simp only [bind, Option.bind_some, Text.keyword_append word letters _ spelled,
    Text.blanks_append right rest rightWide solid]
  rfl

theorem unread_solid (word written text rest : Text) (solid : text.all (fun c => !isBlank c) = true) :
    Text.Unread (readOperator word written) text rest := by
  refine Text.unread_of_chars text rest fun c member tail => operator_none_of_solid word written tail c ?_
  simpa using List.all_eq_true.mp solid c member

theorem unread_gap (word written gap rest : Text) (blank : Text.allBlank gap = true)
    (solid : rest.head?.any isBlank = false) (absent : Text.keyword word rest = none) :
    Text.Unread (readOperator word written) gap rest := by
  induction gap with
  | nil => exact Text.unread_nil rest
  | cons c gap ih =>
      have wide : Gap (c :: gap) := ⟨List.cons_ne_nil _ _, blank⟩
      simp only [Text.allBlank, List.all_cons, Bool.and_eq_true] at blank
      exact (Text.unread_cons_iff c gap rest).mpr
        ⟨operator_none_of_gap word written (c :: gap) rest wide solid absent, ih blank.2⟩

theorem wrapper_none (text : Text) (absent : Text.keyword "natal".toList text = none) :
    readWrapper text = none := by
  rw [readWrapper, absent]
  rfl

theorem wrapper_none_of_head (c : Char) (rest : Text) (other : c.toLower ≠ 'n') :
    readWrapper (c :: rest) = none :=
  wrapper_none _ (Text.keyword_other _ _ _ _ other)

theorem wrapper_none_of_next (c : Char) (rest : Text) (other : ∀ d ∈ rest.head?, d.toLower ≠ 'a') :
    readWrapper (c :: rest) = none := by
  apply wrapper_none
  cases rest with
  | nil =>
      change (if c.toLower = 'n' then Text.keyword ['a', 't', 'a', 'l'] [] else none) = none
      rw [Text.keyword, ite_self]
  | cons d rest =>
      change (if c.toLower = 'n' then Text.keyword ['a', 't', 'a', 'l'] (d :: rest) else none) = none
      rw [Text.keyword_other _ _ _ _ (other d rfl), ite_self]

theorem wrapper_taken (letters gap inside rest : Text) (spelled : Spells "natal".toList letters)
    (blank : Text.allBlank gap = true) (nonempty : inside ≠ []) (unclosed : ')' ∉ inside) :
    readWrapper (letters ++ (gap ++ '(' :: (inside ++ ')' :: rest))) = some (inside, rest) := by
  have opened : Text.skipBlanks (gap ++ '(' :: (inside ++ ')' :: rest)) =
      '(' :: (inside ++ ')' :: rest) := by
    rw [Text.skip_blanks_append gap _ blank, Text.skip_blanks_fixed _ rfl]
  have grouped := (Text.group_some_iff _ inside rest).mpr ⟨rfl, unclosed⟩
  have present : inside.isEmpty = false := by simpa using nonempty
  rw [readWrapper, Text.keyword_append _ _ _ spelled]
  simp only [bind, Option.bind_some, opened, grouped, present]
  rfl

theorem unread_wrapper (text rest : Text) (other : text.all (fun c => c.toLower != 'n') = true) :
    Text.Unread readWrapper text rest := by
  refine Text.unread_of_chars text rest fun c member tail => wrapper_none_of_head c tail ?_
  simpa using List.all_eq_true.mp other c member

theorem unread_apart (text rest : Text)
    (apart : (text.map Char.toLower).IsChain fun c d => c = 'n' → d ≠ 'a')
    (joint : ∀ c ∈ text.getLast?, ∀ d ∈ rest.head?, c.toLower = 'n' → d.toLower ≠ 'a') :
    Text.Unread readWrapper text rest := by
  induction text with
  | nil => exact Text.unread_nil rest
  | cons c text ih =>
      rw [List.map_cons, List.isChain_cons] at apart
      rw [Text.unread_cons_iff]
      refine ⟨?_, ?_⟩
      · by_cases first : c.toLower = 'n'
        · refine wrapper_none_of_next c _ fun d next => ?_
          cases text with
          | nil => exact joint c rfl d next first
          | cons e text =>
              cases next
              exact apart.1 _ rfl first
        · exact wrapper_none_of_head c _ first
      · refine ih apart.2 fun e last d head => joint e ?_ d head
        cases text with
        | nil => cases last
        | cons f text => rwa [List.getLast?_cons_cons]

end Tidy
end Horoscope
