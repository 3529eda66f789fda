import Horoscope.Proofs.Text.Letters
import Horoscope.Text.Decimal
import Horoscope.Text.Keyword
import Mathlib.Algebra.Group.Nat.Defs

set_option autoImplicit false

namespace Horoscope

def Spells (word written : Text) : Prop := written.map Char.toLower = word

instance (word written : Text) : Decidable (Spells word written) :=
  inferInstanceAs (Decidable (written.map Char.toLower = word))

def Gap (text : Text) : Prop := text ≠ [] ∧ Text.allBlank text = true

theorem gap_head (gap rest : Text) (wide : Gap gap) :
    (gap ++ rest).head?.any (fun c => !isBlank c) = false := by
  obtain ⟨nonempty, blank⟩ := wide
  obtain ⟨c, tail, rfl⟩ := List.exists_cons_of_ne_nil nonempty
  rw [Text.allBlank, List.all_cons, Bool.and_eq_true] at blank
  simpa using blank.1

theorem spells_all (p : Char → Bool) (word written : Text) (spelled : Spells word written)
    (lower : ∀ c, p c.toLower = p c) (all : word.all p = true) : written.all p = true := by
  rw [← spelled, List.all_map] at all
  simpa only [Function.comp_def, lower] using all

theorem spells_nonempty (word written : Text) (spelled : Spells word written) (nonempty : word ≠ []) :
    written ≠ [] := by
  intro empty
  rw [Spells, empty, List.map_nil] at spelled
  exact nonempty spelled.symm

theorem spells_solid (word written rest : Text) (spelled : Spells word written)
    (letter : word.head?.any Char.isAlphanum = true) :
    (written ++ rest).head?.any isBlank = false := by
  cases written with
  | nil =>
      rw [← spelled] at letter
      cases letter
  | cons c tail =>
      rw [← spelled] at letter
      have plain : c.toLower.isAlphanum = true := by simpa using letter
      rw [lower_alphanumeric] at plain
      simpa using alphanumeric_not_blank c plain

theorem gap_ends_word (gap rest : Text) (wide : Gap gap) : Text.atWordEnd (gap ++ rest) = true := by
  obtain ⟨nonempty, blank⟩ := wide
  obtain ⟨c, others, rfl⟩ := List.exists_cons_of_ne_nil nonempty
  have head : isBlank c = true := by
    simp only [Text.allBlank, List.all_cons, Bool.and_eq_true] at blank
    exact blank.1
  simp [Text.atWordEnd, blank_not_extending c head]

theorem digits_solid (figure rest : Text) (all : figure.all Char.isDigit = true) (nonempty : figure ≠ []) :
    (figure ++ rest).head?.any isBlank = false := by
  obtain ⟨c, tail, rfl⟩ := List.exists_cons_of_ne_nil nonempty
  simp only [List.all_cons, Bool.and_eq_true] at all
  simpa using alphanumeric_not_blank c (digit_alphanumeric c all.1)

theorem word_end_stops_digits (text : Text) (ended : Text.atWordEnd text = true) :
    text.head?.any Char.isDigit = false := by
  cases text with
  | nil => rfl
  | cons c tail =>
      have apart : extendsName c = false := by simpa [Text.atWordEnd] using ended
      cases digit : c.isDigit with
      | false => simpa using digit
      | true =>
          have joined := name_extending c (alphanumeric_name c (digit_alphanumeric c digit))
          rw [apart] at joined
          cases joined

theorem blank_ends_word (text : Text) (blank : Text.allBlank text = true) : Text.atWordEnd text = true := by
  cases text with
  | nil => rfl
  | cons c tail =>
      simp only [Text.allBlank, List.all_cons, Bool.and_eq_true] at blank
      simp [Text.atWordEnd, blank_not_extending c blank.1]

theorem not_mem_of_all (p : Char → Bool) (text : Text) (c : Char) (all : text.all p = true)
    (other : p c = false) : c ∉ text := by
  intro member
  rw [List.all_eq_true.mp all c member] at other
  cases other

theorem while_cut (p : Char → Bool) (text : Text) :
    text = text.takeWhile p ++ text.dropWhile p ∧ (text.takeWhile p).all p = true ∧
      (text.dropWhile p).head?.any p = false := by
  refine ⟨List.takeWhile_append_dropWhile.symm, List.all_takeWhile, ?_⟩
  have stopped := List.head?_dropWhile_not p text
  cases rest : text.dropWhile p with
  | nil => rfl
  | cons c tail =>
      rw [rest] at stopped
      simpa using stopped

theorem front_unique (p : Char → Bool) (a b c d : Text) (same : a ++ b = c ++ d) (all : a.all p = true)
    (ended : b.head?.any p = false) (otherAll : c.all p = true) (otherEnded : d.head?.any p = false) :
    a = c ∧ b = d := by
  have front : ∀ whole rest : Text, whole.all p = true → rest.head?.any p = false →
      (whole ++ rest).takeWhile p = whole := by
    intro whole rest kind stopped
    rw [List.takeWhile_append_of_pos (List.all_eq_true.mp kind)]
    cases rest with
    | nil => simp
    | cons e tail =>
        have other : p e = false := by simpa using stopped
        simp [other]
  have equal : a = c := by rw [← front a b all ended, same, front c d otherAll otherEnded]
  subst equal
  exact ⟨rfl, List.append_cancel_left same⟩

theorem mem_joined (mark : Text) (c : Char) (items : List Text) (member : c ∈ mark.intercalate items) :
    c ∈ mark ∨ ∃ item ∈ items, c ∈ item := by
  induction items with
  | nil => cases member
  | cons item items ih =>
      cases items with
      | nil => exact .inr ⟨item, List.mem_cons_self, by simpa using member⟩
      | cons next others =>
          rw [List.intercalate_cons_cons, List.mem_append, List.mem_append] at member
          rcases member with (here | atMark) | later
          · exact .inr ⟨item, List.mem_cons_self, here⟩
          · exact .inl atMark
          · rcases ih later with atMark | ⟨found, listed, inside⟩
            · exact .inl atMark
            · exact .inr ⟨found, List.mem_cons_of_mem _ listed, inside⟩

theorem joined_all (p : Char → Bool) (mark : Text) (items : List Text) (markAll : mark.all p = true)
    (itemsAll : ∀ item ∈ items, item.all p = true) : (mark.intercalate items).all p = true := by
  rw [List.all_eq_true] at markAll ⊢
  intro c member
  rcases mem_joined mark c items member with atMark | ⟨item, listed, inside⟩
  · exact markAll c atMark
  · exact List.all_eq_true.mp (itemsAll item listed) c inside

namespace Text

theorem keyword_some_iff (word text rest : Text) :
    keyword word text = some rest ↔ ∃ written, text = written ++ rest ∧ Spells word written := by
  induction word generalizing text with
  | nil => simp [keyword, Spells, eq_comm]
  | cons k ks ih =>
      cases text with
      | nil => simp [keyword, Spells]
      | cons c tail =>
          by_cases same : c.toLower = k
          · rw [keyword, if_pos same, ih]
            apply Iff.intro
            · intro form
              obtain ⟨written, rfl, spelled⟩ := form
              exact ⟨c :: written, rfl, by rw [Spells, List.map_cons, same, spelled]⟩
            · intro form
              obtain ⟨written, cut, spelled⟩ := form
              obtain ⟨d, others, rfl, -, tailSpelled⟩ := List.map_eq_cons_iff.mp spelled
              obtain ⟨rfl, rfl⟩ := List.cons.inj cut
              exact ⟨others, rfl, tailSpelled⟩
          · rw [keyword, if_neg same]
            apply Iff.intro
            · intro found
              cases found
            · intro form
              obtain ⟨written, cut, spelled⟩ := form
              obtain ⟨d, others, rfl, headSpelled, -⟩ := List.map_eq_cons_iff.mp spelled
              exact absurd ((List.cons.inj cut).1 ▸ headSpelled) same

theorem keyword_append (word written rest : Text) (spelled : Spells word written) :
    keyword word (written ++ rest) = some rest :=
  (keyword_some_iff _ _ _).mpr ⟨written, rfl, spelled⟩

theorem keyword_other (k c : Char) (ks rest : Text) (other : c.toLower ≠ k) :
    keyword (k :: ks) (c :: rest) = none := by
  rw [keyword, if_neg other]

theorem keywords_nested (a b text restA restB : Text) (first : keyword a text = some restA)
    (second : keyword b text = some restB) : a <+: b ∨ b <+: a := by
  obtain ⟨writtenA, cutA, rfl⟩ := (keyword_some_iff _ _ _).mp first
  obtain ⟨writtenB, cutB, rfl⟩ := (keyword_some_iff _ _ _).mp second
  have prefixA : writtenA.map Char.toLower <+: text.map Char.toLower :=
    ⟨restA.map Char.toLower, by rw [← List.map_append, ← cutA]⟩
  have prefixB : writtenB.map Char.toLower <+: text.map Char.toLower :=
    ⟨restB.map Char.toLower, by rw [← List.map_append, ← cutB]⟩
  exact List.prefix_or_prefix_of_prefix prefixA prefixB

theorem keyword_apart (word other text rest : Text) (found : keyword word text = some rest)
    (apart : ¬ (word <+: other ∨ other <+: word)) : keyword other text = none := by
  rw [Option.eq_none_iff_forall_ne_some]
  intro after second
  exact apart (keywords_nested _ _ _ _ _ found second)

theorem symbol_some_iff (wanted : Char) (text rest : Text) :
    symbol wanted text = some rest ↔ text = wanted :: rest := by
  cases text with
  | nil => simp [symbol]
  | cons c tail => by_cases same : c = wanted <;> simp [symbol, same]

theorem optional_symbol_present (wanted : Char) (rest : Text) :
    optionalSymbol wanted (wanted :: rest) = rest := by
  simp [optionalSymbol, symbol]

theorem optional_symbol_absent (wanted : Char) (text : Text) (absent : text.head? ≠ some wanted) :
    optionalSymbol wanted text = text := by
  cases text with
  | nil => rfl
  | cons c tail =>
      have different : c ≠ wanted := by simpa using absent
      simp [optionalSymbol, symbol, different]

theorem optional_symbol_cut (wanted : Char) (text : Text) :
    ∃ mark, text = mark ++ optionalSymbol wanted text ∧ (mark = [] ∨ mark = [wanted]) := by
  cases text with
  | nil => exact ⟨[], rfl, .inl rfl⟩
  | cons c tail =>
      by_cases same : c = wanted
      · subst same
        exact ⟨[c], by rw [optional_symbol_present]; rfl, .inr rfl⟩
      · exact ⟨[], by rw [optional_symbol_absent _ _ (by simpa using same)]; rfl, .inl rfl⟩

theorem symbol_append (wanted : Char) (text rest : Text) (other : rest.head? ≠ some wanted) :
    symbol wanted (text ++ rest) = (symbol wanted text).map (· ++ rest) := by
  cases text with
  | nil =>
      cases rest with
      | nil => rfl
      | cons c tail =>
          have different : c ≠ wanted := by simpa using other
          simp [symbol, different]
  | cons c tail => by_cases same : c = wanted <;> simp [symbol, same]

theorem optional_symbol_append (wanted : Char) (text rest : Text) (other : rest.head? ≠ some wanted) :
    optionalSymbol wanted (text ++ rest) = optionalSymbol wanted text ++ rest := by
  rw [optionalSymbol, optionalSymbol, symbol_append wanted text rest other]
  cases symbol wanted text <;> rfl

theorem before_mark (mark : Char) (content rest : Text) (inside : mark ∉ content) :
    (content ++ mark :: rest).takeWhile (· != mark) = content ∧
      (content ++ mark :: rest).dropWhile (· != mark) = mark :: rest := by
  have all : ∀ c ∈ content, (c != mark) = true := by
    intro c member
    rw [bne_iff_ne]
    intro same
    subst same
    exact inside member
  rw [List.takeWhile_append_of_pos all, List.dropWhile_append_of_pos all]
  simp

theorem group_some_iff (text content rest : Text) :
    group text = some (content, rest) ↔ text = '(' :: (content ++ ')' :: rest) ∧ ')' ∉ content := by
  apply Iff.intro
  · intro read
    simp only [group, bind, Option.bind_eq_some_iff] at read
    obtain ⟨inside, opened, after, closed, same⟩ := read
    rw [symbol_some_iff] at opened closed
    cases same
    refine ⟨?_, ?_⟩
    · rw [opened, ← closed, List.takeWhile_append_dropWhile]
    · intro member
      simpa using List.all_eq_true.mp List.all_takeWhile _ member
  · intro form
    obtain ⟨rfl, inside⟩ := form
    obtain ⟨front, back⟩ := before_mark ')' content rest inside
    simp [group, symbol, front, back]

theorem all_blank_append (a b : Text) : allBlank (a ++ b) = (allBlank a && allBlank b) :=
  List.all_append

theorem skip_blanks_append (gap text : Text) (blank : allBlank gap = true) :
    skipBlanks (gap ++ text) = skipBlanks text :=
  List.dropWhile_append_of_pos (List.all_eq_true.mp blank)

theorem skip_blanks_fixed (text : Text) (solid : text.head?.any isBlank = false) :
    skipBlanks text = text := by
  cases text with
  | nil => rfl
  | cons c tail =>
      have head : isBlank c = false := by simpa using solid
      simp [skipBlanks, head]

theorem skip_blanks_cut (text : Text) :
    ∃ gap, text = gap ++ skipBlanks text ∧ allBlank gap = true ∧
      (skipBlanks text).head?.any isBlank = false := by
  exact ⟨text.takeWhile isBlank, while_cut isBlank text⟩

theorem opening_some_iff (text inside : Text) :
    symbol '(' (skipBlanks text) = some inside ↔
      ∃ gap, text = gap ++ '(' :: inside ∧ allBlank gap = true := by
  rw [symbol_some_iff]
  apply Iff.intro
  · intro opened
    obtain ⟨gap, cut, blank, -⟩ := skip_blanks_cut text
    rw [opened] at cut
    exact ⟨gap, cut, blank⟩
  · intro form
    obtain ⟨gap, rfl, blank⟩ := form
    rw [skip_blanks_append _ _ blank, skip_blanks_fixed _ rfl]

theorem blanks_some_iff (text rest : Text) :
    blanks text = some rest ↔
      ∃ gap, text = gap ++ rest ∧ Gap gap ∧ rest.head?.any isBlank = false := by
  apply Iff.intro
  · intro read
    cases text with
    | nil => cases read
    | cons c tail =>
        by_cases blank : isBlank c = true
        · rw [blanks, if_pos blank] at read
          cases read
          obtain ⟨gap, cut, gapBlank, solid⟩ := skip_blanks_cut tail
          refine ⟨c :: gap, ?_, ⟨List.cons_ne_nil _ _, ?_⟩, solid⟩
          · rw [List.cons_append, ← cut]
          · simpa [allBlank, blank] using gapBlank
        · rw [blanks, if_neg blank] at read
          cases read
  · intro form
    obtain ⟨gap, rfl, ⟨nonempty, blank⟩, solid⟩ := form
    obtain ⟨c, others, rfl⟩ := List.exists_cons_of_ne_nil nonempty
    simp only [allBlank, List.all_cons, Bool.and_eq_true] at blank
    rw [List.cons_append, blanks, if_pos blank.1, skip_blanks_append _ _ blank.2,
      skip_blanks_fixed _ solid]

theorem blanks_append (gap rest : Text) (wide : Gap gap) (solid : rest.head?.any isBlank = false) :
    blanks (gap ++ rest) = some rest :=
  (blanks_some_iff _ _).mpr ⟨gap, rfl, wide, solid⟩

theorem trim_end_append (text blanks : Text) (blank : allBlank blanks = true) :
    trimEnd (text ++ blanks) = trimEnd text := by
  have reversed : ∀ c ∈ blanks.reverse, isBlank c = true := by
    intro c member
    exact List.all_eq_true.mp blank c (List.mem_reverse.mp member)
  rw [trimEnd, List.reverse_append, List.dropWhile_append_of_pos reversed, trimEnd]

theorem trim_end_fixed (text : Text) (solid : text.getLast?.any isBlank = false) :
    trimEnd text = text := by
  rw [trimEnd]
  have fixed := skip_blanks_fixed text.reverse (by rw [List.head?_reverse]; exact solid)
  rw [skipBlanks] at fixed
  rw [fixed, List.reverse_reverse]

theorem trim_end_behind (front text : Text) (written : allBlank text = false) :
    trimEnd (front ++ text) = front ++ trimEnd text := by
  have left : (text.reverse.dropWhile isBlank).isEmpty = false := by
    rw [List.isEmpty_eq_false_iff, ← List.reverse_ne_nil_iff, ← trimEnd]
    intro empty
    rw [(trim_end_nil_iff text).mp empty] at written
    cases written
  rw [trimEnd, List.reverse_append, List.dropWhile_append, left, trimEnd]
  simp

theorem trim_cut (text : Text) :
    ∃ left right, text = left ++ trim text ++ right ∧ allBlank left = true ∧ allBlank right = true := by
  obtain ⟨left, cut, leftBlank, -⟩ := skip_blanks_cut text
  obtain ⟨right, rightBlank, endCut⟩ := trim_end_cut (skipBlanks text)
  refine ⟨left, right, ?_, leftBlank, rightBlank⟩
  rw [trim, List.append_assoc, ← endCut, ← cut]

theorem trim_eq_nil_iff (text : Text) : trim text = [] ↔ allBlank text = true := by
  apply Iff.intro
  · intro empty
    obtain ⟨left, right, cut, leftBlank, rightBlank⟩ := trim_cut text
    rw [cut, empty, all_blank_append, all_blank_append, leftBlank, rightBlank]
    rfl
  · intro blank
    rw [trim, (skip_blanks_nil_iff text).mpr blank]
    rfl

theorem trim_member (text : Text) (c : Char) (member : c ∈ trim text) : c ∈ text := by
  obtain ⟨left, right, cut, -⟩ := trim_cut text
  rw [cut]
  exact List.mem_append_left right (List.mem_append_right left member)

theorem trim_between (left core right : Text) (leftBlank : allBlank left = true)
    (rightBlank : allBlank right = true) (first : core.head?.any isBlank = false)
    (last : core.getLast?.any isBlank = false) : trim (left ++ core ++ right) = core := by
  rw [trim, List.append_assoc, skip_blanks_append _ _ leftBlank]
  cases core with
  | nil =>
      have gone : skipBlanks right = [] := (skip_blanks_nil_iff right).mpr rightBlank
      rw [List.nil_append, gone]
      rfl
  | cons c tail =>
      rw [skip_blanks_fixed _ (by simpa using first), trim_end_append _ _ rightBlank,
        trim_end_fixed _ last]

end Text

namespace Decimal

theorem digits_bound (digits : Text) (all : digits.all Char.isDigit = true) (start : Nat) :
    Nat.ofDigitChars 10 digits start < (start + 1) * 10 ^ digits.length := by
  induction digits generalizing start with
  | nil => simp
  | cons c digits ih =>
      simp only [List.all_cons, Bool.and_eq_true] at all
      have most : c.toNat ≤ 57 := (Char.isDigit_iff_toNat.mp all.1).2
      have zero : '0'.toNat = 48 := rfl
      have later := ih all.2 (10 * start + (c.toNat - '0'.toNat))
      rw [Nat.ofDigitChars_cons]
      refine Nat.lt_of_lt_of_le later ?_
      rw [List.length_cons, Nat.pow_succ', ← Nat.mul_assoc]
      apply Nat.mul_le_mul_right
      omega

theorem value_bound (digits : Text) (all : digits.all Char.isDigit = true) :
    value digits < 10 ^ digits.length := by
  simpa [value] using digits_bound digits all 0

theorem digits_cut (text front rest : Text) (cut : digits text = (front, rest)) :
    text = front ++ rest ∧ front.all Char.isDigit = true ∧
      (text.all Char.isDigit = true → rest = []) := by
  cases cut
  have whole : text.takeWhile Char.isDigit ++ text.dropWhile Char.isDigit = text :=
    List.takeWhile_append_dropWhile
  refine ⟨whole.symm, List.all_takeWhile, fun all => ?_⟩
  have front : (text ++ []).takeWhile Char.isDigit = text ++ [] :=
    List.takeWhile_append_of_pos (List.all_eq_true.mp all)
  rw [List.append_nil] at front
  rw [front] at whole
  exact List.append_right_eq_self.mp whole

theorem read_digits_ok_iff (bound n : Nat) (text : Text) :
    (readDigits bound text).toOption = some n ↔
      text ≠ [] ∧ text.all Char.isDigit = true ∧ value text = n ∧ n < bound := by
  rw [readDigits]
  rcases cut : digits text with ⟨front, rest⟩
  obtain ⟨rfl, all, whole⟩ := digits_cut text front rest cut
  apply Iff.intro
  · intro read
    by_cases large : bound ≤ value front
    · simp [large, Except.toOption] at read
    · by_cases spoiled : (front.isEmpty || !rest.isEmpty) = true
      · simp [large, spoiled, Except.toOption] at read
      · simp only [if_neg large, if_neg spoiled, Except.toOption, Option.some.injEq] at read
        simp only [Bool.or_eq_true, List.isEmpty_iff, Bool.not_eq_true', not_or,
          Bool.not_eq_false] at spoiled
        obtain ⟨nonempty, rfl⟩ := spoiled
        rw [List.append_nil]
        exact ⟨nonempty, all, read, by omega⟩
  · intro form
    obtain ⟨nonempty, allDigits, rfl, small⟩ := form
    cases whole allDigits
    rw [List.append_nil] at nonempty small ⊢
    simp [Nat.not_le_of_lt small, nonempty, Except.toOption]

theorem read_ok_iff (bound n : Nat) (text : Text) :
    (read bound text).toOption = some n ↔
      ∃ sign figure, text = sign ++ figure ∧ (sign = [] ∨ sign = ['+']) ∧ figure ≠ [] ∧
        figure.all Char.isDigit = true ∧ value figure = n ∧ n < bound := by
  apply Iff.intro
  · intro found
    unfold read at found
    split at found
    · cases found
    · rename_i rest
      exact ⟨['+'], rest, rfl, .inr rfl, (read_digits_ok_iff _ _ _).mp found⟩
    · exact ⟨[], text, rfl, .inl rfl, (read_digits_ok_iff _ _ _).mp found⟩
  · intro form
    obtain ⟨sign, figure, rfl, signed, number⟩ := form
    have digits := (read_digits_ok_iff bound n figure).mpr number
    rcases signed with rfl | rfl
    · cases figure with
      | nil => exact absurd rfl number.1
      | cons c tail =>
          -- A plus sign is no digit, so the figure is read whole.
          have unsigned : c ≠ '+' := by
            intro same
            subst same
            have plus := number.2.1
            simp at plus
          rw [List.nil_append, read.eq_def]
          split
          · rename_i empty
            cases empty
          · rename_i plus
            exact absurd (List.cons.inj plus).1 unsigned
          · exact digits
    · exact digits

def Stretch (most : Nat) (digits rest : Text) : Prop :=
  digits.all Char.isDigit = true ∧ digits.length ≤ most ∧
    (digits.length = most ∨ rest.head?.any Char.isDigit = false)

theorem stretch_exists (most : Nat) (text : Text) :
    ∃ digits rest, text = digits ++ rest ∧ Stretch most digits rest := by
  induction text generalizing most with
  | nil => exact ⟨[], [], rfl, rfl, Nat.zero_le _, .inr rfl⟩
  | cons c tail ih =>
      by_cases digit : c.isDigit = true
      · cases most with
        | zero => exact ⟨[], c :: tail, rfl, rfl, Nat.le_refl _, .inl rfl⟩
        | succ fewer =>
            obtain ⟨digits, rest, rfl, all, bound, full⟩ := ih fewer
            refine ⟨c :: digits, rest, rfl, by simp [digit, all], Nat.succ_le_succ bound, ?_⟩
            simpa using full
      · exact ⟨[], c :: tail, rfl, rfl, Nat.zero_le _, .inr (by simpa using digit)⟩

theorem stretch_front (most : Nat) (digits rest : Text) (taken : Stretch most digits rest) :
    ((digits ++ rest).take most).takeWhile Char.isDigit = digits := by
  obtain ⟨all, bound, full⟩ := taken
  rw [List.take_append, List.take_of_length_le bound,
    List.takeWhile_append_of_pos (List.all_eq_true.mp all)]
  suffices ended : (rest.take (most - digits.length)).takeWhile Char.isDigit = [] by
    rw [ended, List.append_nil]
  rcases full with full | other
  · simp [full]
  · cases rest with
    | nil => simp
    | cons c tail =>
        have head : c.isDigit = false := by simpa using other
        cases most - digits.length <;> simp [head]

theorem read_few_stretch (least most : Nat) (digits rest : Text) (taken : Stretch most digits rest) :
    readFew least most (digits ++ rest) =
      if digits.length < least then none else some (value digits, rest) := by
  simp only [readFew, stretch_front most digits rest taken, List.drop_left]

theorem read_few_some_iff (least most n : Nat) (text rest : Text) :
    readFew least most text = some (n, rest) ↔
      ∃ digits, text = digits ++ rest ∧ Stretch most digits rest ∧ least ≤ digits.length ∧
        value digits = n := by
  obtain ⟨front, back, rfl, taken⟩ := stretch_exists most text
  have read := read_few_stretch least most front back taken
  apply Iff.intro
  · intro found
    rw [read] at found
    by_cases short : front.length < least
    · rw [if_pos short] at found
      cases found
    · rw [if_neg short] at found
      cases found
      exact ⟨front, rfl, taken, by omega, rfl⟩
  · intro form
    obtain ⟨digits, cut, stretch, enough, rfl⟩ := form
    have same : front = digits := by
      rw [← stretch_front most front back taken, cut, stretch_front most digits rest stretch]
    subst same
    rw [List.append_cancel_left cut] at read
    rw [List.append_cancel_left cut, read, if_neg (by omega)]

theorem read_few_stopped (least most : Nat) (front rest : Text)
    (stopped : rest.head?.any Char.isDigit = false) :
    readFew least most (front ++ rest) =
      (readFew least most front).map fun (n, after) => (n, after ++ rest) := by
  obtain ⟨digits, after, rfl, taken⟩ := stretch_exists most front
  have longer : Stretch most digits (after ++ rest) := by
    obtain ⟨all, bound, full⟩ := taken
    refine ⟨all, bound, full.imp_right fun other => ?_⟩
    cases after with
    | nil => exact stopped
    | cons c tail => simpa using other
  rw [List.append_assoc, read_few_stretch least most digits _ longer,
    read_few_stretch least most digits _ taken]
  split <;> rfl

theorem read_few_append (least most : Nat) (digits rest : Text) (taken : Stretch most digits rest)
    (enough : least ≤ digits.length) :
    readFew least most (digits ++ rest) = some (value digits, rest) :=
  (read_few_some_iff _ _ _ _ _).mpr ⟨digits, rfl, taken, enough, rfl⟩

end Decimal
end Horoscope
