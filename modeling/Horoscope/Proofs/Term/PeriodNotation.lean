import Horoscope.Proofs.Text.Front
import Horoscope.Term.Reader

set_option autoImplicit false

namespace Horoscope

def Figures (year month day : Nat) (written : Text) : Prop :=
  ∃ years months days, written = years ++ '-' :: (months ++ '-' :: days) ∧
    (years.all Char.isDigit = true ∧ years.length = 4 ∧ Decimal.value years = year) ∧
    (months.all Char.isDigit = true ∧ (1 ≤ months.length ∧ months.length ≤ 2) ∧
      Decimal.value months = month) ∧
    days.all Char.isDigit = true ∧ (1 ≤ days.length ∧ days.length ≤ 2) ∧ Decimal.value days = day

def DayNotation (day : Date) (written : Text) : Prop :=
  ∃ year : Nat, Figures year day.month day.day written ∧ day.year = year

def YearNotation (year : Int) (written : Text) : Prop :=
  written.all Char.isDigit = true ∧ written.length = 4 ∧ year = Decimal.value written

def BoundNotation (bound : PeriodEnd) (written : Text) : Prop :=
  (Text.allBlank written = true ∧ bound = .ongoing) ∨
    ∃ gap figures trail, written = gap ++ figures ++ trail ∧ Gap gap ∧ Text.allBlank trail = true ∧
      ((∃ day, DayNotation day figures ∧ bound = .on day) ∨
        ∃ year, YearNotation year figures ∧ bound = .withYear year)

def PeriodNotation (content : Text) (period : Period) : Prop :=
  ∃ lead first gap word ending, content = lead ++ first ++ gap ++ word ++ ending ∧
    Text.allBlank lead = true ∧ DayNotation period.start first ∧ Gap gap ∧
      Spells "to".toList word ∧ BoundNotation period.bound ending

theorem figures_solid (year month day : Nat) (written rest : Text)
    (figures : Figures year month day written) : (written ++ rest).head?.any isBlank = false := by
  obtain ⟨years, months, days, rfl, ⟨all, width, -⟩, -⟩ := figures
  rw [List.append_assoc]
  apply digits_solid years _ all
  intro same
  subst same
  cases width

namespace Date

theorem read_figures_some_iff (text rest : Text) (year month day : Nat) :
    readFigures text = some ((year, month, day), rest) ↔
      ∃ years months days, text = years ++ '-' :: (months ++ '-' :: (days ++ rest)) ∧
        (Decimal.Stretch 4 years ('-' :: (months ++ '-' :: (days ++ rest))) ∧ 4 ≤ years.length ∧
          Decimal.value years = year) ∧
        (Decimal.Stretch 2 months ('-' :: (days ++ rest)) ∧ 1 ≤ months.length ∧
          Decimal.value months = month) ∧
        Decimal.Stretch 2 days rest ∧ 1 ≤ days.length ∧ Decimal.value days = day := by
  apply Iff.intro
  · intro read
    simp only [readFigures, bind, Option.bind_eq_some_iff, Prod.exists, Option.some.injEq, pure,
      Prod.mk.injEq] at read
    obtain ⟨_, _, readYear, _, dash, _, _, readMonth, _, dash', _, _, readDay, ⟨rfl, rfl, rfl⟩, rfl⟩ := read
    rw [Text.symbol_some_iff] at dash dash'
    subst dash dash'
    obtain ⟨years, rfl, yearsTaken, yearsEnough, yearsValue⟩ :=
      (Decimal.read_few_some_iff _ _ _ _ _).mp readYear
    obtain ⟨months, rfl, monthsTaken, monthsEnough, monthsValue⟩ :=
      (Decimal.read_few_some_iff _ _ _ _ _).mp readMonth
    obtain ⟨days, rfl, daysTaken, daysEnough, daysValue⟩ :=
      (Decimal.read_few_some_iff _ _ _ _ _).mp readDay
    exact ⟨years, months, days, rfl, ⟨yearsTaken, yearsEnough, yearsValue⟩,
      ⟨monthsTaken, monthsEnough, monthsValue⟩, daysTaken, daysEnough, daysValue⟩
  · intro form
    obtain ⟨years, months, days, rfl, ⟨yearsTaken, yearsEnough, rfl⟩, ⟨monthsTaken, monthsEnough, rfl⟩,
      daysTaken, daysEnough, rfl⟩ := form
    rw [readFigures, Decimal.read_few_append 4 4 years _ yearsTaken yearsEnough]
    simp only [bind, Option.bind_some, Text.symbol, if_pos]
    rw [Decimal.read_few_append 1 2 months _ monthsTaken monthsEnough]
    simp only [Option.bind_some, if_pos]
    rw [Decimal.read_few_append 1 2 days _ daysTaken daysEnough]
    rfl

theorem figures_of_read (text rest : Text) (year month day : Nat)
    (read : readFigures text = some ((year, month, day), rest)) :
    ∃ written, text = written ++ rest ∧ Figures year month day written := by
  obtain ⟨years, months, days, rfl, ⟨⟨yearsAll, yearsBound, -⟩, yearsEnough, yearsValue⟩,
    ⟨⟨monthsAll, monthsBound, -⟩, monthsEnough, monthsValue⟩, ⟨daysAll, daysBound, -⟩, daysEnough,
    daysValue⟩ := (read_figures_some_iff _ _ _ _ _).mp read
  refine ⟨years ++ '-' :: (months ++ '-' :: days), by simp, years, months, days, rfl,
    ⟨yearsAll, by omega, yearsValue⟩, ⟨monthsAll, ⟨monthsEnough, monthsBound⟩, monthsValue⟩, daysAll,
    ⟨daysEnough, daysBound⟩, daysValue⟩

theorem read_figures_append (year month day : Nat) (written rest : Text)
    (figures : Figures year month day written) (ended : Text.atWordEnd rest = true) :
    readFigures (written ++ rest) = some ((year, month, day), rest) := by
  obtain ⟨years, months, days, rfl, ⟨yearsAll, yearsWidth, yearsValue⟩,
    ⟨monthsAll, monthsWidth, monthsValue⟩, daysAll, daysWidth, daysValue⟩ := figures
  refine (read_figures_some_iff _ _ _ _ _).mpr ⟨years, months, days, by simp,
    ⟨⟨yearsAll, by omega, .inl yearsWidth⟩, by omega, yearsValue⟩,
    ⟨⟨monthsAll, monthsWidth.2, .inr rfl⟩, monthsWidth.1, monthsValue⟩,
    ⟨daysAll, daysWidth.2, .inr (word_end_stops_digits rest ended)⟩, daysWidth.1, daysValue⟩

theorem of_figures_some_iff (year month day : Nat) (date : Date) :
    ofFigures? (year, month, day) = some date ↔
      date.year = year ∧ date.month = month ∧ date.day = day :=
  of_ymd_some_iff

theorem day_notation_iff (date : Date) (written : Text) :
    DayNotation date written ↔
      ∃ year month day, Figures year month day written ∧ ofFigures? (year, month, day) = some date := by
  simp only [of_figures_some_iff]
  apply Iff.intro
  · intro form
    obtain ⟨year, figures, same⟩ := form
    exact ⟨year, date.month, date.day, figures, same, rfl, rfl⟩
  · intro form
    obtain ⟨year, month, day, figures, same, rfl, rfl⟩ := form
    exact ⟨year, figures, same⟩

end Date

namespace PeriodEnd

theorem read_day_append (gap figures trail : Text) (day : Date) (wide : Gap gap)
    (written : DayNotation day figures) (blank : Text.allBlank trail = true) :
    read (gap ++ figures ++ trail) = some (on day, trail) := by
  obtain ⟨year, month, dayOfMonth, written, real⟩ := (Date.day_notation_iff _ _).mp written
  rw [read, List.append_assoc, Text.blanks_append gap _ wide (figures_solid _ _ _ _ _ written)]
  simp only [Date.read_figures_append _ _ _ _ _ written (blank_ends_word trail blank), real, Option.map_some]

theorem read_year_append (gap figures trail : Text) (year : Int) (wide : Gap gap)
    (written : YearNotation year figures) (blank : Text.allBlank trail = true) :
    read (gap ++ figures ++ trail) = some (withYear year, trail) := by
  obtain ⟨all, width, rfl⟩ := written
  have nonempty : figures ≠ [] := by
    intro same
    subst same
    cases width
  have taken : Decimal.Stretch 4 figures trail := ⟨all, by omega, .inl width⟩
  have few := Decimal.read_few_append 4 4 figures trail taken (by omega)
  -- Four digits stand alone: no dash follows them, so they are no date.
  have undated : Date.readFigures (figures ++ trail) = none := by
    rw [Date.readFigures, few]
    simp only [bind, Option.bind_some]
    cases trail with
    | nil => rfl
    | cons c tail =>
        simp only [Text.allBlank, List.all_cons, Bool.and_eq_true] at blank
        have different : c ≠ '-' := by
          intro same
          subst same
          have dash := blank.1
          revert dash
          decide
        simp [Text.symbol, different]
  rw [read, List.append_assoc, Text.blanks_append gap _ wide (digits_solid figures trail all nonempty)]
  simp only [undated, few]

theorem read_ongoing (trail : Text) (blank : Text.allBlank trail = true) :
    read trail = some (ongoing, []) := by
  cases trail with
  | nil => rfl
  | cons c tail =>
      have wide : Gap (c :: tail) := ⟨List.cons_ne_nil _ _, blank⟩
      have rest := Text.blanks_append (c :: tail) [] wide rfl
      rw [List.append_nil] at rest
      rw [read, rest]
      rfl

theorem bound_notation_iff (bound : PeriodEnd) (written : Text) :
    BoundNotation bound written ↔
      ∃ rest, read written = some (bound, rest) ∧ Text.allBlank rest = true := by
  apply Iff.intro
  · intro given
    rcases given with ⟨blank, rfl⟩ | ⟨gap, figures, trail, rfl, wide, blank, (⟨day, form, rfl⟩ | ⟨year,
      form, rfl⟩)⟩
    · exact ⟨[], read_ongoing written blank, rfl⟩
    · exact ⟨trail, read_day_append gap figures trail day wide form blank, blank⟩
    · exact ⟨trail, read_year_append gap figures trail year wide form blank, blank⟩
  · intro given
    obtain ⟨rest, found, blank⟩ := given
    rw [read] at found
    split at found
    · cases found
      exact .inl ⟨blank, rfl⟩
    · rename_i tail gapRead
      obtain ⟨gap, rfl, wide, solid⟩ := (Text.blanks_some_iff _ _).mp gapRead
      split at found
      · rename_i figures after figuresRead
        obtain ⟨year, month, dayOfMonth⟩ := figures
        obtain ⟨day, real, same⟩ := Option.map_eq_some_iff.mp found
        cases same
        obtain ⟨digits, rfl, written⟩ := Date.figures_of_read _ _ _ _ _ figuresRead
        exact .inr ⟨gap, digits, rest, by rw [List.append_assoc], wide, blank,
          .inl ⟨day, (Date.day_notation_iff _ _).mpr ⟨year, month, dayOfMonth, written, real⟩, rfl⟩⟩
      · split at found
        · rename_i year after yearRead
          cases found
          obtain ⟨digits, rfl, ⟨all, bound, -⟩, enough, value⟩ :=
            (Decimal.read_few_some_iff _ _ _ _ _).mp yearRead
          exact .inr ⟨gap, digits, rest, by rw [List.append_assoc], wide, blank,
            .inr ⟨year, ⟨all, by omega, by rw [value]⟩, rfl⟩⟩
        · cases found
          -- The blanks were all taken, so nothing but the end can be left.
          have fixed := Text.skip_blanks_fixed rest solid
          have gone := (Text.skip_blanks_nil_iff rest).mpr blank
          rw [fixed] at gone
          subst gone
          rw [List.append_nil]
          exact .inl ⟨wide.2, rfl⟩

end PeriodEnd

namespace Period

theorem of_content_some_iff (content : Text) (period : Period) :
    ofContent? content = some period ↔ PeriodNotation content period := by
  apply Iff.intro
  · intro read
    simp only [ofContent?, bind, Option.bind_eq_some_iff, Prod.exists] at read
    obtain ⟨year, month, dayOfMonth, afterFirst, figuresRead, afterGap, gapRead, ending, wordRead, first,
      real, bound, rest, boundRead, whole⟩ := read
    by_cases blank : Text.allBlank rest = true
    · rw [if_pos blank] at whole
      cases whole
      obtain ⟨lead, cut, leadBlank, -⟩ := Text.skip_blanks_cut content
      obtain ⟨digits, skipped, written⟩ := Date.figures_of_read _ _ _ _ _ figuresRead
      obtain ⟨gap, rfl, wide, -⟩ := (Text.blanks_some_iff _ _).mp gapRead
      obtain ⟨word, rfl, spelled⟩ := (Text.keyword_some_iff _ _ _).mp wordRead
      refine ⟨lead, digits, gap, word, ending, ?_, leadBlank,
        (Date.day_notation_iff _ _).mpr ⟨year, month, dayOfMonth, written, real⟩, wide, spelled,
        (PeriodEnd.bound_notation_iff _ _).mpr ⟨rest, boundRead, blank⟩⟩
      rw [cut, skipped]
      simp
    · rw [if_neg blank] at whole
      cases whole
  · intro form
    obtain ⟨lead, digits, gap, word, ending, rfl, leadBlank, dayWritten, wide, spelled, boundWritten⟩ := form
    obtain ⟨year, month, dayOfMonth, written, real⟩ := (Date.day_notation_iff _ _).mp dayWritten
    obtain ⟨rest, boundRead, blank⟩ := (PeriodEnd.bound_notation_iff _ _).mp boundWritten
    simp only [List.append_assoc]
    rw [ofContent?, Text.skip_blanks_append lead _ leadBlank,
      Text.skip_blanks_fixed _ (figures_solid _ _ _ _ _ written),
      Date.read_figures_append _ _ _ _ _ written (gap_ends_word gap _ wide)]
    simp only [bind, Option.bind_some]
    rw [Text.blanks_append gap _ wide (spells_solid _ _ _ spelled (by decide))]
    simp only [Option.bind_some]
    rw [Text.keyword_append _ _ _ spelled]
    simp only [Option.bind_some, real, boundRead, blank, if_pos]

end Period
end Horoscope
