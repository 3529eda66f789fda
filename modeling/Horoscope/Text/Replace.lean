import Horoscope.Text.Basic

set_option autoImplicit false

namespace Horoscope.Text

def replaceAfter (read : Text → Option (Text × Text)) : Nat → Text → Text
  | _, [] => []
  | skipped + 1, _ :: rest => replaceAfter read skipped rest
  | 0, c :: rest =>
    match read (c :: rest) with
    | some (replacement, after) =>
      replacement ++ replaceAfter read (rest.length - after.length) rest
    | none => c :: replaceAfter read 0 rest

def replaceAll (read : Text → Option (Text × Text)) (text : Text) : Text :=
  replaceAfter read 0 text

theorem replace_after_drop (read : Text → Option (Text × Text)) (skipped : Nat) (text : Text) :
    replaceAfter read skipped text = replaceAll read (text.drop skipped) := by
  induction text generalizing skipped with
  | nil => simp [replaceAfter, replaceAll]
  | cons c rest ih =>
    cases skipped with
    | zero => rfl
    | succ n => simp [replaceAfter, ih]

theorem replace_all_nil (read : Text → Option (Text × Text)) : replaceAll read [] = [] := rfl

theorem replace_all_of_none {read : Text → Option (Text × Text)} {c : Char} {rest : Text}
    (inert : read (c :: rest) = none) :
    replaceAll read (c :: rest) = c :: replaceAll read rest := by
  simp [replaceAll, replaceAfter, inert]

theorem replace_all_of_some {read : Text → Option (Text × Text)} {c : Char}
    {taken replacement after : Text}
    (found : read (c :: (taken ++ after)) = some (replacement, after)) :
    replaceAll read (c :: (taken ++ after)) = replacement ++ replaceAll read after := by
  have skipped := replace_after_drop read taken.length (taken ++ after)
  simp only [List.drop_left] at skipped
  rw [replaceAll, replaceAfter, found]
  simp [skipped]

end Horoscope.Text
