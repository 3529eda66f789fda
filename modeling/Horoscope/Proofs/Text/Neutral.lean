import Horoscope.Proofs.Text.Front
import Mathlib.Data.List.Forall2

set_option autoImplicit false

namespace Horoscope

-- The same character, a letter of ASCII in either case, or two blanks of one length in bytes.
def Alike (c d : Char) : Prop :=
  c = d ∨ (c.isAlpha = true ∧ c.toLower = d.toLower) ∨
    (isBlank c = true ∧ isBlank d = true ∧ c.utf8Size = d.utf8Size)

def blankOfSize : Nat → Char
  | 1 => ' '
  | 2 => '\u00a0'
  | _ => '\u3000'

def neutral (c : Char) : Char := if isBlank c then blankOfSize c.utf8Size else c.toLower

def isSingular (c : Char) : Bool := !isBlank c && !c.isAlpha

theorem blank_of_size_blank (c : Char) (blank : isBlank c = true) : isBlank (blankOfSize c.utf8Size) = true :=
  blank_property (fun c => isBlank (blankOfSize c.utf8Size)) (by decide +kernel) c blank

theorem blank_of_size_size (c : Char) (blank : isBlank c = true) :
    (blankOfSize c.utf8Size).utf8Size = c.utf8Size := by
  have all := blank_property (fun c => (blankOfSize c.utf8Size).utf8Size == c.utf8Size)
    (by decide +kernel) c blank
  exact eq_of_beq all

theorem neutral_cases (c : Char) :
    (isBlank c = true ∧ neutral c = blankOfSize c.utf8Size) ∨ (isBlank c = false ∧ neutral c = c.toLower) := by
  cases blank : isBlank c with
  | true => exact .inl ⟨rfl, by rw [neutral, if_pos blank]⟩
  | false => exact .inr ⟨rfl, by rw [neutral, if_neg (by simp [blank])]⟩

theorem alike_neutral (c d : Char) (alike : Alike c d) : neutral c = neutral d := by
  rcases alike with rfl | ⟨letter, same⟩ | ⟨blankC, blankD, size⟩
  · rfl
  · have plainC : c.isAlphanum = true := by simp [Char.isAlphanum, letter]
    have plainD : d.isAlphanum = true := by rwa [← lower_alphanumeric, ← same, lower_alphanumeric]
    simp only [neutral, alphanumeric_not_blank c plainC, alphanumeric_not_blank d plainD]
    exact same
  · simp only [neutral, blankC, blankD, size, if_true]

theorem neutral_blank (c : Char) : isBlank (neutral c) = isBlank c := by
  rcases neutral_cases c with ⟨blank, same⟩ | ⟨-, same⟩
  · rw [same, blank, blank_of_size_blank c blank]
  · rw [same, lower_same isBlank (by decide)]

theorem neutral_size (c : Char) : (neutral c).utf8Size = c.utf8Size := by
  rcases neutral_cases c with ⟨blank, same⟩ | ⟨-, same⟩
  · rw [same, blank_of_size_size c blank]
  · rw [same, lower_same Char.utf8Size (by decide)]

theorem neutral_class (p : Char → Bool) (solid : ∀ c, isBlank c = true → p c = false)
    (lower : ∀ c, p c.toLower = p c) (c : Char) : p (neutral c) = p c := by
  rcases neutral_cases c with ⟨blank, same⟩ | ⟨-, same⟩
  · rw [solid c blank, solid (neutral c) (by rwa [neutral_blank])]
  · rw [same, lower]

theorem neutral_name (c : Char) : isNameChar (neutral c) = isNameChar c :=
  neutral_class isNameChar blank_not_name lower_name c

theorem neutral_extending (c : Char) : extendsName (neutral c) = extendsName c :=
  neutral_class extendsName blank_not_extending (lower_same extendsName (by decide)) c

theorem neutral_lower_iff (k c : Char) (solid : isBlank k = false) :
    (neutral c).toLower = k ↔ c.toLower = k := by
  rcases neutral_cases c with ⟨blank, -⟩ | ⟨-, same⟩
  · -- A blank is no letter in its neutral form either.
    have unlike : ∀ d, isBlank d = true → d.toLower ≠ k := by
      rintro d blank rfl
      rw [lower_same isBlank (by decide), blank] at solid
      cases solid
    exact iff_of_false (unlike (neutral c) (by rwa [neutral_blank])) (unlike c blank)
  · rw [same, lower_lower]

theorem neutral_singular_iff (mark c : Char) (singular : isSingular mark = true) :
    neutral c = mark ↔ c = mark := by
  simp only [isSingular, Bool.and_eq_true, Bool.not_eq_true'] at singular
  obtain ⟨solid, letterless⟩ := singular
  have unlettered : ∀ d : Char, d.toLower = mark → d.toLower = d := by
    rintro d rfl
    exact (lower_letter d).resolve_right (by simp [letterless])
  apply Iff.intro
  · intro same
    rcases neutral_cases c with ⟨blank, -⟩ | ⟨-, lower⟩
    · rw [← neutral_blank, same, solid] at blank
      cases blank
    · rw [lower] at same
      rw [← unlettered c same, same]
  · rintro rfl
    rcases neutral_cases c with ⟨blank, -⟩ | ⟨-, lower⟩
    · rw [solid] at blank
      cases blank
    · rw [lower]
      rcases lower_letter c with same | letter
      · exact same
      · rw [lower_same Char.isAlpha (by decide), letterless] at letter
        cases letter

theorem neutral_digit (c : Char) : (neutral c).isDigit = c.isDigit := by
  refine neutral_class Char.isDigit (fun d blank => ?_) (lower_same Char.isDigit (by decide)) c
  cases digit : d.isDigit with
  | false => rfl
  | true =>
      rw [alphanumeric_not_blank d (digit_alphanumeric d digit)] at blank
      cases blank

theorem digit_singular (c : Char) (digit : c.isDigit = true) : isSingular c = true := by
  have all := ascii_property (fun c => !c.isDigit || isSingular c) (by decide) c (digit_ascii c digit)
  simpa [digit] using all

namespace Text

def neutral (text : Text) : Text := text.map Horoscope.neutral

theorem neutral_cons (c : Char) (rest : Text) : neutral (c :: rest) = Horoscope.neutral c :: neutral rest := rfl

theorem alike_texts_neutral (a b : Text) (alike : List.Forall₂ Alike a b) : neutral a = neutral b := by
  induction alike with
  | nil => rfl
  | cons same _ ih => exact congrArg₂ List.cons (alike_neutral _ _ same) ih

theorem byte_length_neutral (text : Text) : byteLength (neutral text) = byteLength text := by
  induction text with
  | nil => rfl
  | cons c rest ih => rw [neutral_cons, byteLength, byteLength, neutral_size, ih]

theorem head_neutral (p : Char → Bool) (same : ∀ c, p (Horoscope.neutral c) = p c) (text : Text) :
    (neutral text).head?.any p = text.head?.any p := by
  cases text with
  | nil => rfl
  | cons c rest => exact same c

theorem all_neutral (p : Char → Bool) (same : ∀ c, p (Horoscope.neutral c) = p c) (text : Text) :
    (neutral text).all p = text.all p := by
  rw [neutral, List.all_map]
  exact congrArg text.all (funext same)

theorem while_neutral (p : Char → Bool) (same : ∀ c, p (Horoscope.neutral c) = p c) (text : Text) :
    (neutral text).takeWhile p = neutral (text.takeWhile p) ∧
      (neutral text).dropWhile p = neutral (text.dropWhile p) := by
  have through : p ∘ Horoscope.neutral = p := funext same
  rw [neutral, List.takeWhile_map, List.dropWhile_map, through]
  exact ⟨rfl, rfl⟩

theorem digits_neutral (digits : Text) (all : digits.all Char.isDigit = true) : neutral digits = digits := by
  have fixed : ∀ c ∈ digits, Horoscope.neutral c = c := by
    intro c member
    have digit := List.all_eq_true.mp all c member
    exact (neutral_singular_iff c c (digit_singular c digit)).mpr rfl
  rw [neutral, List.map_congr_left fixed, List.map_id']

theorem skip_blanks_neutral (text : Text) : skipBlanks (neutral text) = neutral (skipBlanks text) :=
  (while_neutral isBlank neutral_blank text).2

theorem all_blank_neutral (text : Text) : allBlank (neutral text) = allBlank text :=
  all_neutral isBlank neutral_blank text

theorem trim_neutral (text : Text) : trim (neutral text) = neutral (trim text) := by
  rw [trim, trimEnd, skip_blanks_neutral, neutral, ← List.map_reverse]
  change (skipBlanks (neutral (skipBlanks text).reverse)).reverse = _
  rw [skip_blanks_neutral, neutral, ← List.map_reverse]
  rfl

theorem blanks_neutral (text : Text) : blanks (neutral text) = (blanks text).map neutral := by
  cases text with
  | nil => rfl
  | cons c rest =>
      rw [neutral_cons, blanks, blanks, neutral_blank]
      split
      · exact congrArg some (skip_blanks_neutral rest)
      · rfl

theorem at_word_end_neutral (text : Text) : atWordEnd (neutral text) = atWordEnd text := by
  rw [atWordEnd, head_neutral extendsName neutral_extending, atWordEnd]

theorem keyword_neutral (word text : Text) (solid : word.all (fun k => !isBlank k) = true) :
    keyword word (neutral text) = (keyword word text).map neutral := by
  induction word generalizing text with
  | nil => rfl
  | cons k ks ih =>
      simp only [List.all_cons, Bool.and_eq_true, Bool.not_eq_true'] at solid
      cases text with
      | nil => rfl
      | cons c rest =>
          simp only [neutral_cons, keyword, neutral_lower_iff k c solid.1]
          split
          · exact ih rest solid.2
          · rfl

theorem symbol_neutral (mark : Char) (text : Text) (singular : isSingular mark = true) :
    symbol mark (neutral text) = (symbol mark text).map neutral := by
  cases text with
  | nil => rfl
  | cons c rest =>
      simp only [neutral_cons, symbol, neutral_singular_iff mark c singular]
      split <;> rfl

theorem optional_symbol_neutral (mark : Char) (text : Text) (singular : isSingular mark = true) :
    optionalSymbol mark (neutral text) = neutral (optionalSymbol mark text) := by
  rw [optionalSymbol, optionalSymbol, symbol_neutral mark text singular]
  cases symbol mark text <;> rfl

theorem group_neutral (text : Text) :
    group (neutral text) = (group text).map (Prod.map neutral neutral) := by
  have same : ∀ c : Char, (Horoscope.neutral c != ')') = (c != ')') := by
    intro c
    simp only [bne, beq_eq_decide, neutral_singular_iff ')' c (by decide)]
  rw [group, group, symbol_neutral '(' text (by decide)]
  cases symbol '(' text with
  | none => rfl
  | some inside =>
      obtain ⟨content, behind⟩ := while_neutral (· != ')') same inside
      simp only [Option.map_some, bind, Option.bind_some, content, behind, symbol_neutral ')' _ (by decide)]
      cases symbol ')' (inside.dropWhile (· != ')')) <;> rfl

end Text

namespace Decimal

theorem read_few_neutral (least most : Nat) (text : Text) :
    readFew least most (Text.neutral text) = (readFew least most text).map (Prod.map id Text.neutral) := by
  obtain ⟨front, rest, rfl, taken⟩ := stretch_exists most text
  have digits := Text.digits_neutral front taken.1
  have split : Text.neutral (front ++ rest) = front ++ Text.neutral rest := by
    rw [Text.neutral, List.map_append]
    exact congrArg (· ++ _) digits
  have stretch : Stretch most front (Text.neutral rest) := by
    obtain ⟨all, bound, full⟩ := taken
    exact ⟨all, bound, by rwa [Text.head_neutral Char.isDigit neutral_digit]⟩
  rw [split, read_few_stretch _ _ _ _ stretch, read_few_stretch _ _ _ _ taken]
  split <;> rfl

theorem read_signed_front (bound : Nat) (text : Text) :
    read bound text =
      if text.isEmpty then .error .empty else readDigits bound (Text.optionalSymbol '+' text) := by
  rw [read.eq_def]
  split
  · rfl
  · rw [Text.optional_symbol_present]
    rfl
  · rename_i nonempty unsigned
    have absent : text.head? ≠ some '+' := by
      intro same
      cases text with
      | nil => cases same
      | cons c rest => exact unsigned rest (by rw [Option.some.inj same])
    have filled : text.isEmpty = false := by
      rw [List.isEmpty_eq_false_iff]
      exact fun same => nonempty same
    rw [Text.optional_symbol_absent '+' text absent, filled]
    rfl

theorem read_digits_neutral (bound : Nat) (text : Text) :
    readDigits bound (Text.neutral text) = readDigits bound text := by
  obtain ⟨front, behind⟩ := Text.while_neutral Char.isDigit neutral_digit text
  have fixed := Text.digits_neutral (text.takeWhile Char.isDigit) List.all_takeWhile
  have filled : (Text.neutral (text.dropWhile Char.isDigit)).isEmpty =
      (text.dropWhile Char.isDigit).isEmpty := by
    rw [Text.neutral, List.isEmpty_map]
  rw [readDigits, readDigits, digits, digits, front, behind, fixed]
  dsimp only
  rw [filled]

theorem read_neutral (bound : Nat) (text : Text) : read bound (Text.neutral text) = read bound text := by
  have filled : (Text.neutral text).isEmpty = text.isEmpty := List.isEmpty_map
  rw [read_signed_front, read_signed_front, filled, Text.optional_symbol_neutral '+' text (by decide),
    read_digits_neutral]

end Decimal
end Horoscope
