import Horoscope.Text.Basic

set_option autoImplicit false

namespace Horoscope.Text

def paragraphs : Text → List Text
  | [] => [[]]
  | [c] => [[c]]
  | c :: d :: rest =>
    if c = '\n' ∧ d = '\n' then [] :: paragraphs rest
    else (paragraphs (d :: rest)).modifyHead (c :: ·)

def Unbroken (text : Text) : Prop :=
  ∀ rest, paragraphs (text ++ rest) = (paragraphs rest).modifyHead (text ++ ·)

theorem paragraphs_break (rest : Text) : paragraphs ('\n' :: '\n' :: rest) = [] :: paragraphs rest := by
  rw [paragraphs, if_pos ⟨rfl, rfl⟩]

theorem paragraphs_cons (c : Char) (rest : Text) (apart : c = '\n' → rest.head? ≠ some '\n') :
    paragraphs (c :: rest) = (paragraphs rest).modifyHead (c :: ·) := by
  cases rest with
  | nil => rfl
  | cons d rest =>
      have notBoth : ¬ (c = '\n' ∧ d = '\n') := by
        intro both
        exact apart both.1 (congrArg some both.2)
      rw [paragraphs, if_neg notBoth]

theorem unbroken_append (a b : Text) (first : Unbroken a) (second : Unbroken b) : Unbroken (a ++ b) := by
  intro rest
  rw [List.append_assoc, first, second, List.modifyHead_modifyHead]
  simp only [Function.comp_def, List.append_assoc]

theorem unbroken_line (line : Text) (plain : '\n' ∉ line) : Unbroken line := by
  intro rest
  induction line with
  | nil =>
      rw [List.nil_append]
      cases paragraphs rest <;> rfl
  | cons c line ih =>
      rw [List.mem_cons, not_or] at plain
      have apart : c = '\n' → (line ++ rest).head? ≠ some '\n' := fun same => absurd same.symm plain.1
      rw [List.cons_append, paragraphs_cons c _ apart, ih plain.2, List.modifyHead_modifyHead]
      rfl

theorem unbroken_next_line (line : Text) (nonempty : line ≠ []) (plain : '\n' ∉ line) :
    Unbroken ('\n' :: line) := by
  intro rest
  obtain ⟨c, others, rfl⟩ := List.exists_cons_of_ne_nil nonempty
  rw [List.mem_cons, not_or] at plain
  have apart : '\n' = '\n' → (c :: others ++ rest).head? ≠ some '\n' := by
    intro _ same
    exact plain.1 (Option.some.inj same).symm
  have behind := unbroken_line (c :: others) (by simpa using plain) rest
  rw [List.cons_append, paragraphs_cons '\n' _ apart, behind, List.modifyHead_modifyHead]
  rfl

theorem unbroken_two_lines (first second : Text) (nonempty : second ≠ []) (firstPlain : '\n' ∉ first)
    (secondPlain : '\n' ∉ second) : Unbroken (first ++ '\n' :: second) :=
  unbroken_append _ _ (unbroken_line first firstPlain) (unbroken_next_line second nonempty secondPlain)

theorem paragraphs_last (block : Text) (unbroken : Unbroken block) : paragraphs block = [block] := by
  have whole := unbroken []
  rw [List.append_nil] at whole
  rw [whole, paragraphs, List.modifyHead_cons, List.append_nil]

theorem paragraphs_first (block rest : Text) (unbroken : Unbroken block) :
    paragraphs (block ++ '\n' :: '\n' :: rest) = block :: paragraphs rest := by
  rw [unbroken, paragraphs_break, List.modifyHead_cons, List.append_nil]

theorem two_lines (first second : Text) (firstPlain : '\n' ∉ first) (secondPlain : '\n' ∉ second) :
    (first ++ '\n' :: second).splitOn '\n' = [first, second] := by
  have plain : ∀ line ∈ [first, second], '\n' ∉ line := by
    simp [firstPlain, secondPlain]
  have split := List.splitOn_intercalate '\n' plain (List.cons_ne_nil _ _)
  simpa using split

end Horoscope.Text
