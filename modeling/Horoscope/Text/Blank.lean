import Horoscope.Text.Basic

set_option autoImplicit false

namespace Horoscope

-- The Unicode property White_Space.
def isBlank (c : Char) : Bool :=
  let n := c.toNat
  (9 ≤ n && n ≤ 13) || n == 0x20 || n == 0x85 || n == 0xa0 || n == 0x1680 ||
    (0x2000 ≤ n && n ≤ 0x200a) || n == 0x2028 || n == 0x2029 || n == 0x202f || n == 0x205f ||
    n == 0x3000

namespace Text

def skipBlanks (text : Text) : Text := text.dropWhile isBlank

def allBlank (text : Text) : Bool := text.all isBlank

def trimEnd (text : Text) : Text := (text.reverse.dropWhile isBlank).reverse

def trim (text : Text) : Text := trimEnd (skipBlanks text)

theorem skip_blanks_nil_iff (text : Text) : skipBlanks text = [] ↔ allBlank text = true := by
  induction text with
  | nil => simp [skipBlanks, allBlank]
  | cons c rest ih =>
    by_cases blank : isBlank c <;> simp_all [skipBlanks, allBlank]

theorem trim_end_nil_iff (text : Text) : trimEnd text = [] ↔ allBlank text = true := by
  rw [trimEnd, List.reverse_eq_nil_iff]
  exact (skip_blanks_nil_iff text.reverse).trans (by rw [allBlank, List.all_reverse, allBlank])

theorem trim_end_cut (text : Text) :
    ∃ blanks, allBlank blanks = true ∧ text = trimEnd text ++ blanks := by
  refine ⟨(text.reverse.takeWhile isBlank).reverse, ?_, ?_⟩
  · simp only [allBlank, List.all_reverse]
    exact List.all_takeWhile
  · rw [trimEnd, ← List.reverse_append, List.takeWhile_append_dropWhile, List.reverse_reverse]

def blanks (text : Text) : Option Text :=
  match text with
  | [] => none
  | c :: rest => if isBlank c then some (skipBlanks rest) else none

end Text
end Horoscope
