import Horoscope.Text.Blank
import Horoscope.Text.Word

set_option autoImplicit false

namespace Horoscope

def blankCodes : List Nat :=
  [9, 10, 11, 12, 13, 0x20, 0x85, 0xa0, 0x1680, 0x2000, 0x2001, 0x2002, 0x2003, 0x2004, 0x2005,
    0x2006, 0x2007, 0x2008, 0x2009, 0x200a, 0x2028, 0x2029, 0x202f, 0x205f, 0x3000]

theorem blank_code (c : Char) (blank : isBlank c = true) : c.toNat ∈ blankCodes := by
  simp [isBlank] at blank
  simp [blankCodes]
  omega

theorem blank_property (p : Char → Bool)
    (all : blankCodes.all (fun n => p (Char.ofNat n)) = true) (c : Char) (blank : isBlank c = true) :
    p c = true := by
  have listed := List.all_eq_true.mp all c.toNat (blank_code c blank)
  simpa using listed

theorem ascii_property (p : Char → Bool)
    (all : (List.range 128).all (fun n => p (Char.ofNat n)) = true) (c : Char)
    (ascii : c.toNat < 128) : p c = true := by
  have listed := List.all_eq_true.mp all c.toNat (List.mem_range.mpr ascii)
  simpa using listed

theorem ascii_kind_property (kind p : Char → Bool) (ascii : ∀ c, kind c = true → c.toNat < 128)
    (all : (List.range 128).all (fun n => !kind (Char.ofNat n) || p (Char.ofNat n)) = true) (text : Text)
    (every : text.all kind = true) : text.all p = true := by
  rw [List.all_eq_true] at every ⊢
  intro c member
  have member := every c member
  have either := ascii_property (fun c => !kind c || p c) all c (ascii c member)
  simpa [member] using either

theorem blank_not_extending (c : Char) (blank : isBlank c = true) : extendsName c = false := by
  have all := blank_property (fun c => !extendsName c) (by decide +kernel) c blank
  simpa using all

theorem blank_not_word (c : Char) (blank : isBlank c = true) : isWordChar c = false := by
  have all := blank_property (fun c => !isWordChar c) (by decide +kernel) c blank
  simpa using all

theorem name_extending (c : Char) (name : isNameChar c = true) : extendsName c = true := by
  simp [extendsName, name]

theorem blank_not_name (c : Char) (blank : isBlank c = true) : isNameChar c = false := by
  have apart := blank_not_extending c blank
  rw [extendsName, Bool.or_eq_false_iff] at apart
  exact apart.1

theorem alphanumeric_ascii (c : Char) (plain : c.isAlphanum = true) : c.toNat < 128 := by
  rcases Bool.or_eq_true_iff.mp plain with letter | digit
  · rcases Bool.or_eq_true_iff.mp letter with upper | lower
    · have bound : c.toNat ≤ 90 := (of_decide_eq_true upper).2
      omega
    · have bound : c.toNat ≤ 122 := of_decide_eq_true (Bool.and_eq_true_iff.mp lower).2
      omega
  · have bound : c.toNat ≤ 57 := (Char.isDigit_iff_toNat.mp digit).2
    omega

theorem alphanumeric_name (c : Char) (plain : c.isAlphanum = true) : isNameChar c = true := by
  have all := ascii_property (fun c => !c.isAlphanum || isNameChar c) (by decide) c
    (alphanumeric_ascii c plain)
  simpa [plain] using all

theorem alphanumeric_word (c : Char) (plain : c.isAlphanum = true) : isWordChar c = true := by
  have all := ascii_property (fun c => !c.isAlphanum || isWordChar c) (by decide) c
    (alphanumeric_ascii c plain)
  simpa [plain] using all

theorem digit_alphanumeric (c : Char) (digit : c.isDigit = true) : c.isAlphanum = true := by
  simp [Char.isAlphanum, digit]

theorem digit_ascii (c : Char) (digit : c.isDigit = true) : c.toNat < 128 :=
  alphanumeric_ascii c (digit_alphanumeric c digit)

theorem digit_word (c : Char) (digit : c.isDigit = true) : isWordChar c = true :=
  alphanumeric_word c (digit_alphanumeric c digit)

theorem digit_decimal (c : Char) (digit : c.isDigit = true) : isDecimalDigit c = true := by
  rw [isDecimalDigit, if_pos (digit_ascii c digit)]
  exact digit

theorem alphanumeric_not_blank (c : Char) (plain : c.isAlphanum = true) : isBlank c = false := by
  cases blank : isBlank c with
  | false => rfl
  | true =>
      have apart := blank_not_extending c blank
      rw [name_extending c (alphanumeric_name c plain)] at apart
      cases apart

namespace Ranges

theorem contains_within (ranges : Ranges) (n : Nat) (inside : ranges.contains n = true) :
    ∃ r ∈ ranges, r.1 ≤ n ∧ n ≤ r.2 := by
  induction ranges with
  | nil => cases inside
  | cons r ranges ih =>
      rw [contains] at inside
      by_cases below : n < r.1
      · rw [if_pos below] at inside
        cases inside
      · rw [if_neg below, Bool.or_eq_true, decide_eq_true_iff] at inside
        rcases inside with here | later
        · exact ⟨r, List.mem_cons_self, by omega, here⟩
        · obtain ⟨other, listed, within⟩ := ih later
          exact ⟨other, List.mem_cons_of_mem r listed, within⟩

def apart (a b : Ranges) : Bool := a.all fun r => b.all fun s => Nat.blt r.2 s.1 || Nat.blt s.2 r.1

theorem apart_contains (a b : Ranges) (separate : apart a b = true) (n : Nat) (inside : a.contains n = true) :
    b.contains n = false := by
  rw [Bool.eq_false_iff]
  intro other
  obtain ⟨r, listedR, withinR⟩ := contains_within a n inside
  obtain ⟨s, listedS, withinS⟩ := contains_within b n other
  have sides := List.all_eq_true.mp (List.all_eq_true.mp separate r listedR) s listedS
  simp only [Bool.or_eq_true, Nat.blt_eq] at sides
  omega

end Ranges

-- The tables of properties know nothing of the edition to come.
theorem word_not_eighteenth (c : Char) (word : isWordChar c = true) : isEighteenth c = false := by
  by_cases ascii : c.toNat < 128
  · simpa using ascii_property (fun c => !isEighteenth c) (by decide) c ascii
  · have joins : (isConnector c || isJoiner c) = true →
        Ranges.contains [(0x5f, 0x5f), (0x200c, 0x200d), (0x203f, 0x2040), (0x2054, 0x2054),
          (0xfe33, 0xfe34), (0xfe4d, 0xfe4f), (0xff3f, 0xff3f)] c.toNat = true := by
      simp [isConnector, isJoiner, Ranges.contains]
      omega
    simp only [isWordChar, isAlphabetic, isMark, isDecimalDigit, if_neg ascii, Bool.and_eq_true,
      Bool.or_eq_true] at word joins
    rcases word.1 with (((letter | mark) | digit) | connector) | joiner
    · exact Ranges.apart_contains _ _ (by decide +kernel) _ letter
    · exact Ranges.apart_contains _ _ (by decide +kernel) _ mark
    · exact Ranges.apart_contains _ _ (by decide +kernel) _ digit
    · exact Ranges.apart_contains _ _ (by decide +kernel) _ (joins (.inl connector))
    · exact Ranges.apart_contains _ _ (by decide +kernel) _ (joins (.inr joiner))

theorem word_extending_name (c : Char) (word : isWordChar c = true) (extending : extendsName c = true) :
    isNameChar c = true := by
  rw [extendsName, word_not_eighteenth c word, Bool.or_false] at extending
  exact extending

theorem lower_ascii (c : Char) : c.toNat < 128 ∨ c.toLower = c := by
  by_cases ascii : c.toNat < 128
  · exact .inl ascii
  · right
    have beyond : ¬ (c.val ≥ 'A'.val ∧ c.val ≤ 'Z'.val) := by
      intro upper
      have bound : c.toNat ≤ 90 := upper.2
      omega
    exact dif_neg beyond

theorem lower_same {β : Type} [BEq β] [LawfulBEq β] (f : Char → β)
    (ascii : (List.range 128).all (fun n => f (Char.ofNat n).toLower == f (Char.ofNat n)) = true)
    (c : Char) : f c.toLower = f c := by
  rcases lower_ascii c with below | same
  · exact eq_of_beq (ascii_property (fun c => f c.toLower == f c) ascii c below)
  · rw [same]

theorem lower_name (c : Char) : isNameChar c.toLower = isNameChar c := lower_same isNameChar (by decide) c

theorem lower_alphanumeric (c : Char) : c.toLower.isAlphanum = c.isAlphanum :=
  lower_same Char.isAlphanum (by decide) c

theorem lower_lower (c : Char) : c.toLower.toLower = c.toLower := lower_same Char.toLower (by decide) c

theorem lower_letter (c : Char) : c.toLower = c ∨ c.toLower.isAlpha = true := by
  rcases lower_ascii c with ascii | same
  · simpa using ascii_property (fun c => c.toLower == c || c.toLower.isAlpha) (by decide) c ascii
  · exact .inl same

end Horoscope
