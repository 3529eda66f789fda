import Horoscope.Proofs.Results
import Horoscope.Proofs.Term.Written

set_option autoImplicit false

namespace Horoscope

namespace Date

def Counts (n : Nat) (written : Text) : Prop :=
  written ≠ [] ∧ written.all Char.isDigit = true ∧ Decimal.value written = n

def YearSpelling (year : Int) (written : Text) : Prop :=
  (∃ n : Nat, year = n ∧ Counts n written ∧ written.length ≤ 4) ∨
    (∃ (n : Nat) (digits : Text), year = n ∧ written = '+' :: digits ∧ Counts n digits) ∨
    ∃ (n : Nat) (digits : Text), year = -n ∧ written = '-' :: digits ∧ Counts n digits

def PartSpelling (n : Nat) (written : Text) : Prop := Counts n written ∧ written.length ≤ 2

def Spelling (day : Date) (written : Text) : Prop :=
  ∃ years gap months space days, written = years ++ '-' :: (gap ++ (months ++ '-' :: (space ++ days))) ∧
    Text.allBlank gap = true ∧ Text.allBlank space = true ∧ YearSpelling day.year years ∧
      PartSpelling day.month months ∧ PartSpelling day.day days

theorem read_number_ok_iff (most n : Nat) (text rest : Text) (stopped : rest.head?.any Char.isDigit = false) :
    readNumber most text = .ok (n, rest) ↔
      ∃ digits, text = digits ++ rest ∧ Counts n digits ∧ digits.length ≤ most := by
  have few : readNumber most text = .ok (n, rest) ↔ Decimal.readFew 1 most text = some (n, rest) := by
    cases text with
    | nil => simp [readNumber, Decimal.readFew]
    | cons c tail =>
        simp only [readNumber, Decimal.readFew]
        cases ((c :: tail).take most).takeWhile Char.isDigit <;> simp
  rw [few, Decimal.read_few_some_iff]
  apply Iff.intro
  · intro form
    obtain ⟨digits, rfl, ⟨all, bound, -⟩, enough, value⟩ := form
    exact ⟨digits, rfl, ⟨List.length_pos_iff.mp enough, all, value⟩, bound⟩
  · intro form
    obtain ⟨digits, rfl, ⟨nonempty, all, value⟩, bound⟩ := form
    exact ⟨digits, rfl, ⟨all, bound, .inr stopped⟩, List.length_pos_iff.mpr nonempty, value⟩

theorem read_dash_ok_iff (text rest : Text) : readDash text = .ok rest ↔ text = '-' :: rest := by
  cases text with
  | nil => simp [readDash]
  | cons c tail => by_cases dash : c = '-' <;> simp [readDash, dash]

theorem counts_head (n : Nat) (written : Text) (counts : Counts n written) :
    ∃ c tail, written = c :: tail ∧ c.isDigit = true := by
  obtain ⟨nonempty, all, -⟩ := counts
  obtain ⟨c, tail, rfl⟩ := List.exists_cons_of_ne_nil nonempty
  exact ⟨c, tail, rfl, List.all_eq_true.mp all c List.mem_cons_self⟩

theorem counts_solid (n : Nat) (written rest : Text) (counts : Counts n written) :
    (written ++ rest).head?.any isBlank = false :=
  digits_solid written rest counts.2.1 counts.1

theorem behind_blanks_ok_iff {α : Type} (read : Text → Except DateError (α × Text)) (admits : α → Prop)
    [DecidablePred admits] (Spelled : α → Text → Prop) (a : α) (text rest : Text)
    (solid : ∀ written, Spelled a written → (written ++ rest).head?.any isBlank = false)
    (taken : ∀ text, read text = .ok (a, rest) ↔ ∃ written, text = written ++ rest ∧ Spelled a written) :
    (read (Text.skipBlanks text) >>= fun (a, rest) =>
        if admits a then .ok (a, rest) else .error .outOfRange) = .ok (a, rest) ↔
      ∃ gap written, text = gap ++ (written ++ rest) ∧ Text.allBlank gap = true ∧ Spelled a written ∧
        admits a := by
  rw [bind_ok_iff]
  apply Iff.intro
  · intro form
    obtain ⟨⟨b, after⟩, found, checked⟩ := form
    dsimp only at checked
    split at checked
    · rename_i admitted
      cases checked
      obtain ⟨written, cut, spelled⟩ := (taken _).mp found
      obtain ⟨gap, whole, blank, -⟩ := Text.skip_blanks_cut text
      rw [cut] at whole
      exact ⟨gap, written, whole, blank, spelled, admitted⟩
    · cases checked
  · intro form
    obtain ⟨gap, written, rfl, blank, spelled, admitted⟩ := form
    refine ⟨(a, rest), ?_, if_pos admitted⟩
    rw [Text.skip_blanks_append gap _ blank, Text.skip_blanks_fixed _ (solid written spelled)]
    exact (taken _).mpr ⟨written, rfl, spelled⟩

theorem read_part_ok_iff (last n : Nat) (text rest : Text) (stopped : rest.head?.any Char.isDigit = false) :
    readPart last text = .ok (n, rest) ↔
      ∃ gap written, text = gap ++ (written ++ rest) ∧ Text.allBlank gap = true ∧ PartSpelling n written ∧
        1 ≤ n ∧ n ≤ last :=
  behind_blanks_ok_iff (readNumber 2) (fun n => 1 ≤ n ∧ n ≤ last) PartSpelling n text rest
    (fun written spelled => counts_solid n written rest spelled.1)
    fun text => read_number_ok_iff 2 n text rest stopped

def readSignedYear : Text → Except DateError (Int × Text)
  | '-' :: digits => (readNumber digits.length digits).map fun (n, rest) => (-(n : Int), rest)
  | '+' :: digits => (readNumber digits.length digits).map fun (n, rest) => ((n : Int), rest)
  | digits => (readNumber 4 digits).map fun (n, rest) => ((n : Int), rest)

theorem read_year_signed (text : Text) :
    readYear text = readSignedYear (Text.skipBlanks text) >>= fun (year, rest) =>
      if -2147483648 ≤ year ∧ year < 2147483648 then .ok (year, rest) else .error .outOfRange := by
  rw [readYear]
  generalize Text.skipBlanks text = core
  split
  · rfl
  · rfl
  · rename_i other noMinus noPlus
    rw [readSignedYear.eq_3 core noMinus noPlus]
    rfl

theorem number_signed_ok_iff (sign : Nat → Int) (most : Nat) (year : Int) (text rest : Text)
    (stopped : rest.head?.any Char.isDigit = false) :
    ((readNumber most text).map fun (n, after) => (sign n, after)) = .ok (year, rest) ↔
      ∃ n digits, year = sign n ∧ text = digits ++ rest ∧ Counts n digits ∧ digits.length ≤ most := by
  have mapped : ((readNumber most text).map fun (n, after) => (sign n, after)) = .ok (year, rest) ↔
      ∃ n, readNumber most text = .ok (n, rest) ∧ year = sign n := by
    cases readNumber most text with
    | error cause => simp [Except.map]
    | ok read =>
        obtain ⟨n, after⟩ := read
        simp only [Except.map, Except.ok.injEq, Prod.mk.injEq]
        apply Iff.intro
        · rintro ⟨rfl, rfl⟩
          exact ⟨n, ⟨rfl, rfl⟩, rfl⟩
        · rintro ⟨_, ⟨rfl, rfl⟩, rfl⟩
          exact ⟨rfl, rfl⟩
  rw [mapped]
  simp only [read_number_ok_iff most _ text rest stopped]
  apply Iff.intro
  · intro form
    obtain ⟨n, ⟨digits, cut, counts⟩, same⟩ := form
    exact ⟨n, digits, same, cut, counts⟩
  · intro form
    obtain ⟨n, digits, same, cut, counts⟩ := form
    exact ⟨n, ⟨digits, cut, counts⟩, same⟩

theorem read_signed_year_ok_iff (year : Int) (text rest : Text) (stopped : rest.head?.any Char.isDigit = false) :
    readSignedYear text = .ok (year, rest) ↔ ∃ written, text = written ++ rest ∧ YearSpelling year written := by
  apply Iff.intro
  · intro read
    rw [readSignedYear.eq_def] at read
    split at read
    · obtain ⟨n, digits, rfl, rfl, counts, -⟩ := (number_signed_ok_iff (fun n => -n) _ _ _ _ stopped).mp read
      exact ⟨'-' :: digits, rfl, .inr (.inr ⟨n, digits, rfl, rfl, counts⟩)⟩
    · obtain ⟨n, digits, rfl, rfl, counts, -⟩ := (number_signed_ok_iff (fun n => n) _ _ _ _ stopped).mp read
      exact ⟨'+' :: digits, rfl, .inr (.inl ⟨n, digits, rfl, rfl, counts⟩)⟩
    · obtain ⟨n, digits, rfl, rfl, counts, few⟩ := (number_signed_ok_iff (fun n => n) _ _ _ _ stopped).mp read
      exact ⟨digits, rfl, .inl ⟨n, rfl, counts, few⟩⟩
  · intro form
    obtain ⟨written, rfl, ⟨n, rfl, counts, few⟩ | ⟨n, digits, rfl, rfl, counts⟩ | ⟨n, digits, rfl, rfl, counts⟩⟩ :=
      form
    · obtain ⟨c, tail, rfl, digit⟩ := counts_head n written counts
      have unsigned : ∀ (sign : Char) (digits : Text), sign.isDigit = false → c :: tail ++ rest = sign :: digits →
          False := by
        intro sign digits noDigit same
        rw [(List.cons.inj same).1, noDigit] at digit
        cases digit
      rw [readSignedYear.eq_3 _ (fun digits => unsigned '-' digits rfl) fun digits => unsigned '+' digits rfl]
      exact (number_signed_ok_iff (fun n => n) _ _ _ _ stopped).mpr ⟨n, c :: tail, rfl, rfl, counts, few⟩
    · exact (number_signed_ok_iff (fun n => n) _ _ _ _ stopped).mpr
        ⟨n, digits, rfl, rfl, counts, by simp⟩
    · exact (number_signed_ok_iff (fun n => -n) _ _ _ _ stopped).mpr
        ⟨n, digits, rfl, rfl, counts, by simp⟩

theorem year_solid (year : Int) (written rest : Text) (spelled : YearSpelling year written) :
    (written ++ rest).head?.any isBlank = false := by
  rcases spelled with ⟨n, -, counts, -⟩ | ⟨n, digits, -, rfl, -⟩ | ⟨n, digits, -, rfl, -⟩
  · exact counts_solid n written rest counts
  · rfl
  · rfl

theorem read_year_ok_iff (year : Int) (text rest : Text) (stopped : rest.head?.any Char.isDigit = false) :
    readYear text = .ok (year, rest) ↔
      ∃ gap written, text = gap ++ (written ++ rest) ∧ Text.allBlank gap = true ∧ YearSpelling year written ∧
        -2147483648 ≤ year ∧ year < 2147483648 := by
  rw [read_year_signed]
  exact behind_blanks_ok_iff readSignedYear (fun year => -2147483648 ≤ year ∧ year < 2147483648) YearSpelling year
    text rest (fun written spelled => year_solid year written rest spelled)
    fun text => read_signed_year_ok_iff year text rest stopped

theorem day_made_iff (rest : Text) (year : Int) (month n : Nat) (day : Date) :
    (match rest, ofYMD? year month n with
      | _ :: _, _ => throw .trailing
      | [], none => throw .outOfRange
      | [], some d => return d : Except DateError Date) = .ok day ↔
      rest = [] ∧ day.year = year ∧ day.month = month ∧ day.day = n := by
  rw [← of_ymd_some_iff]
  cases rest with
  | cons c tail => simp [throw, throwThe, MonadExceptOf.throw]
  | nil => cases ofYMD? year month n <;> simp [throw, throwThe, MonadExceptOf.throw, pure, Except.pure]

theorem read_ok_iff (text : Text) (day : Date) :
    read text = .ok day ↔
      ∃ lead written, text = lead ++ written ∧ Text.allBlank lead = true ∧ Spelling day written := by
  simp only [read, bind_ok_iff, Prod.exists, read_dash_ok_iff]
  apply Iff.intro
  · intro form
    obtain ⟨year, _, yearRead, _, rfl, month, _, monthRead, _, rfl, n, rest, dayRead, made⟩ := form
    obtain ⟨rfl, rfl, rfl, rfl⟩ := (day_made_iff rest year month n day).mp made
    obtain ⟨lead, years, rfl, leadBlank, yearSpelled, -⟩ := (read_year_ok_iff _ _ _ rfl).mp yearRead
    obtain ⟨gap, months, rfl, gapBlank, monthSpelled, -⟩ := (read_part_ok_iff _ _ _ _ rfl).mp monthRead
    obtain ⟨space, days, rfl, spaceBlank, daySpelled, -⟩ := (read_part_ok_iff _ _ _ _ rfl).mp dayRead
    rw [List.append_nil]
    exact ⟨lead, _, rfl, leadBlank, years, gap, months, space, days, rfl, gapBlank, spaceBlank, yearSpelled,
      monthSpelled, daySpelled⟩
  · intro form
    obtain ⟨lead, written, rfl, leadBlank, years, gap, months, space, days, rfl, gapBlank, spaceBlank, yearSpelled,
      monthSpelled, daySpelled⟩ := form
    obtain ⟨⟨firstYear, lastYear⟩, month, firstDay, lastDay⟩ := day.real
    have short := days_in_month_bound day.year day.month
    unfold Date.firstYear at firstYear
    unfold Date.lastYear at lastYear
    refine ⟨day.year, _, (read_year_ok_iff _ _ _ rfl).mpr ⟨lead, years, rfl, leadBlank, yearSpelled, by omega⟩,
      _, rfl, day.month, _, (read_part_ok_iff _ _ _ _ rfl).mpr ⟨gap, months, rfl, gapBlank, monthSpelled, month⟩,
      _, rfl, day.day, [], (read_part_ok_iff _ _ _ _ rfl).mpr ⟨space, days, ?_, spaceBlank, daySpelled, by omega⟩,
      (day_made_iff [] _ _ _ day).mpr ⟨rfl, rfl, rfl, rfl⟩⟩
    rw [List.append_nil]

def dashed (text : Text) : Text := text.map fun c => if c = '/' then '-' else c

theorem dashed_blank (c : Char) : isBlank (if c = '/' then '-' else c) = isBlank c := by
  by_cases slash : c = '/'
  · rw [if_pos slash, slash]
    decide
  · rw [if_neg slash]

theorem dashed_figures (text : Text) (figures : text.all isFigure = true) : dashed text = text := by
  refine (List.map_congr_left fun c member => ?_).trans (List.map_id text)
  have plain : c ≠ '/' := by
    rintro rfl
    exact absurd (List.all_eq_true.mp figures '/' member) (by decide)
  rw [if_neg plain, id]

theorem spelling_ends (day : Date) (written : Text) (spelled : Spelling day written) :
    written.head?.any isBlank = false ∧ written.getLast?.any isBlank = false := by
  obtain ⟨years, gap, months, space, days, rfl, -, -, yearSpelled, -, ⟨nonempty, all, -⟩, -⟩ := spelled
  refine ⟨year_solid day.year years _ yearSpelled, ?_⟩
  have last := List.all_eq_true.mp all _ (List.getLast_mem nonempty)
  rw [← List.cons_append, ← List.append_assoc, ← List.cons_append, ← List.append_assoc,
    ← List.append_assoc, List.getLast?_append, List.getLast?_eq_some_getLast nonempty]
  exact alphanumeric_not_blank _ (digit_alphanumeric _ last)

def BirthSpelling (day : Date) (text : Text) : Prop :=
  ∃ left core right, text = left ++ core ++ right ∧ Text.allBlank left = true ∧ Text.allBlank right = true ∧
    Spelling day (dashed core)

theorem read_birth_ok_iff (text : Text) (day : Date) : readBirth text = .ok day ↔ BirthSpelling day text := by
  have reading : readBirth text = read (dashed (Text.trim text)) := rfl
  rw [reading, read_ok_iff]
  apply Iff.intro
  · intro form
    obtain ⟨_, _, cut, leadBlank, spelled⟩ := form
    obtain ⟨lead, core, trimmed, rfl, rfl⟩ := List.map_eq_append_iff.mp cut
    obtain ⟨left, right, whole, leftBlank, rightBlank⟩ := Text.trim_cut text
    have blank : Text.allBlank lead = true := by
      simpa [Text.allBlank, Function.comp_def, dashed_blank] using leadBlank
    refine ⟨left ++ lead, core, right, ?_, by rw [Text.all_blank_append, leftBlank, blank]; rfl, rightBlank, spelled⟩
    rw [whole, trimmed]
    simp only [List.append_assoc]
  · intro form
    obtain ⟨left, core, right, rfl, leftBlank, rightBlank, spelled⟩ := form
    obtain ⟨first, last⟩ := spelling_ends day (dashed core) spelled
    have ends : core.head?.any isBlank = false ∧ core.getLast?.any isBlank = false := by
      simpa [dashed, Option.any_map, Function.comp_def, dashed_blank] using And.intro first last
    rw [Text.trim_between left core right leftBlank rightBlank ends.1 ends.2]
    exact ⟨[], dashed core, rfl, rfl, spelled⟩

def isSeparator (c : Char) : Bool := c == '-' || c == '/'

def PartNotation (n : Nat) (written : Text) : Prop := written = Decimal.write n ∨ written = padded 2 n

def BirthNotation (day : Date) (text : Text) : Prop :=
  ∃ left first months second days right,
    text = left ++ (writeYear day.year ++ first :: (months ++ second :: days)) ++ right ∧
      Text.allBlank left = true ∧ Text.allBlank right = true ∧ isSeparator first = true ∧
        isSeparator second = true ∧ PartNotation day.month months ∧ PartNotation day.day days

theorem part_spelling (n : Nat) (written : Text) (small : n < 100) (form : PartNotation n written) :
    PartSpelling n written := by
  have short := Decimal.write_two n small
  rcases form with rfl | rfl
  · exact ⟨⟨Decimal.write_nonempty n, Decimal.write_digits n, Decimal.value_write n⟩, short⟩
  · have width := padded_length 2 n short
    exact ⟨⟨List.length_pos_iff.mp (by omega), padded_digits 2 n, padded_value 2 n⟩, by omega⟩

theorem year_spelling (year : Int) : YearSpelling year (writeYear year) := by
  have counts : Counts year.natAbs (padded 4 year.natAbs) := by
    refine ⟨?_, padded_digits _ _, padded_value _ _⟩
    rw [padded, List.leftpad]
    exact List.append_ne_nil_of_right_ne_nil _ (Decimal.write_nonempty _)
  rw [writeYear]
  by_cases before : year < 0
  · rw [if_pos before]
    exact .inr (.inr ⟨_, _, by omega, rfl, counts⟩)
  · by_cases beyond : 9999 < year
    · rw [if_neg before, if_pos beyond]
      exact .inr (.inl ⟨_, _, by omega, rfl, counts⟩)
    · rw [if_neg before, if_neg beyond, List.nil_append]
      have width := padded_length 4 year.natAbs (Decimal.write_four _ (by omega))
      exact .inl ⟨_, by omega, counts, by omega⟩

theorem dashed_separator (c : Char) (separator : isSeparator c = true) : (if c = '/' then '-' else c) = '-' := by
  rcases Bool.or_eq_true_iff.mp separator with dash | slash
  · rw [eq_of_beq dash]
    rfl
  · rw [eq_of_beq slash]
    rfl

theorem birth_spelling (day : Date) (text : Text) (form : BirthNotation day text) : BirthSpelling day text := by
  obtain ⟨left, first, months, second, days, right, rfl, leftBlank, rightBlank, firstMark, secondMark, monthWritten,
    dayWritten⟩ := form
  obtain ⟨-, ⟨-, lastMonth⟩, -, lastDay⟩ := day.real
  have short := days_in_month_bound day.year day.month
  have monthSpelled := part_spelling day.month months (by omega) monthWritten
  have daySpelled := part_spelling day.day days (by omega) dayWritten
  refine ⟨left, _, right, rfl, leftBlank, rightBlank, writeYear day.year, [], months, [], days, ?_, rfl, rfl,
    year_spelling day.year, monthSpelled, daySpelled⟩
  have years := dashed_figures (writeYear day.year) (write_year_figures day.year)
  have month := dashed_figures months (digits_figures months monthSpelled.1.2.1)
  have last := dashed_figures days (digits_figures days daySpelled.1.2.1)
  simp only [dashed, List.map_append, List.map_cons, dashed_separator first firstMark,
    dashed_separator second secondMark] at years month last ⊢
  rw [years, month, last]
  rfl

theorem written_as_is (day : Date) : BirthNotation day (write day) :=
  ⟨[], '-', padded 2 day.month, '-', padded 2 day.day, [], by simp [write], rfl, rfl, rfl, rfl, .inr rfl, .inr rfl⟩

theorem birth_read_back (day : Date) :
    (∀ text, BirthNotation day text → readBirth text = .ok day) ∧
    (∀ text, readBirth text = .ok day → readBirth (write day) = .ok day) ∧
    ∀ text, readBirth text = .ok day ↔ BirthSpelling day text := by
  have back : ∀ text, BirthNotation day text → readBirth text = .ok day := fun text written =>
    (read_birth_ok_iff text day).mpr (birth_spelling day text written)
  exact ⟨back, fun _ _ => back _ (written_as_is day), fun text => read_birth_ok_iff text day⟩

def leapDayBeforeZero : Date := ⟨-4, 2, 29, by decide⟩

-- The first separator is the sign of the year over again, the second a slash.
theorem leap_day_before_zero_read :
    BirthNotation leapDayBeforeZero "\u2003-0004-2/29\n".toList ∧
      readBirth "\u2003-0004-2/29\n".toList = .ok leapDayBeforeZero ∧
      readBirth "/00004/ 02-29".toList = .ok leapDayBeforeZero ∧
      readBirth "-0004-02-29".toList = .ok leapDayBeforeZero := by
  obtain ⟨back, canonical, -⟩ := birth_read_back leapDayBeforeZero
  have written : BirthNotation leapDayBeforeZero "\u2003-0004-2/29\n".toList :=
    ⟨['\u2003'], '-', ['2'], '/', "29".toList, ['\n'], by decide, by decide, by decide, rfl, rfl, .inl (by decide),
      .inl (by decide)⟩
  have spelled : readBirth "/00004/ 02-29".toList = .ok leapDayBeforeZero := by decide +kernel
  exact ⟨written, back _ written, spelled, canonical _ spelled⟩

end Date
end Horoscope
