import Horoscope.Proofs.Date.Age
import Mathlib.Order.Bounds.Defs
import Mathlib.Order.MinMax

set_option autoImplicit false

namespace Horoscope

namespace Date

def anniversaries (today day : Date) : Set DayFigures :=
  {figures | day.figures ≤ figures ∧ ∃ year, figures = figuresOf year today.month today.day}

def nextAnniversary (today day : Date) : DayFigures :=
  figuresOf (anchorYear today day) today.month today.day

theorem anniversary_iff (today day : Date) (year : Int) :
    figuresOf year today.month today.day ∈ anniversaries today day ↔ anchorYear today day ≤ year := by
  -- Both days are moved by the same years, so that today comes to stand in the year asked for.
  have moved := years_on_moved day today (today.year - year) (year - today.year)
  have still : today.year - year + (year - today.year) = 0 := by omega
  have there : yearsOn today (year - today.year) = figuresOf year today.month today.day := by
    have same : today.year + (year - today.year) = year := by omega
    rw [yearsOn, same]
  rw [still, years_on_zero, there, ← le_age_iff] at moved
  rw [anniversaries, Set.mem_ofPred_eq, and_iff_left ⟨year, rfl⟩, moved, anchorYear]
  omega

theorem next_anniversary_least (today day : Date) :
    IsLeast (anniversaries today day) (nextAnniversary today day) := by
  refine ⟨(anniversary_iff today day _).mpr (Int.le_refl _), ?_⟩
  rintro figures ⟨after, year, rfl⟩
  have later := (anniversary_iff today day year).mp ⟨after, year, rfl⟩
  rw [nextAnniversary, figures_le_iff]
  rcases Int.lt_or_eq_of_le later with less | same
  · exact .inl less
  · exact .inr ⟨same, .inr ⟨rfl, Nat.le_refl _⟩⟩

theorem anchor_year_monotone (today first second : Date) (ordered : first ≤ second) :
    anchorYear today first ≤ anchorYear today second := by
  have younger := age_antitone first second today ordered
  unfold anchorYear
  omega

theorem max_age (first second day : Date) :
    max (age first day) (age second day) = age (min first second) day := by
  rcases le_total first second with ordered | ordered
  · rw [min_eq_left ordered, max_eq_left (age_antitone first second day ordered)]
  · rw [min_eq_right ordered, max_eq_right (age_antitone second first day ordered)]

theorem min_age (first second day : Date) :
    min (age first day) (age second day) = age (max first second) day := by
  rcases le_total first second with ordered | ordered
  · rw [max_eq_right ordered, min_eq_right (age_antitone first second day ordered)]
  · rw [max_eq_left ordered, min_eq_left (age_antitone second first day ordered)]

end Date

namespace BirthRange

def wordYearsAgo? (today : Date) (years : Int) : Option (Option Date) := do
  let year ← wordSub? today.year years
  return Date.ofYMD? year today.month today.day

def wordDays? (today first last : Date) : Option (Option BirthRange) := do
  let ageOfFirst ← Date.wordAge? first today
  let ageOfLast ← Date.wordAge? last today
  let earliest? ← wordYearsAgo? today (max ageOfFirst ageOfLast)
  let latest? ← wordYearsAgo? today (min ageOfFirst ageOfLast)
  return do return ⟨← earliest?, ← latest?⟩

theorem word_years_ago_fits (today day : Date) :
    wordYearsAgo? today (Date.age day today) = some (yearsAgo? today (Date.age day today)) := by
  have bounds := day.year_bounds
  have anchored := Date.anchor_year_bounds today day
  have fits : InWord (today.year - Date.age day today) := by
    unfold InWord
    unfold Date.anchorYear at anchored
    omega
  rw [wordYearsAgo?, word_sub_fits _ _ fits]
  rfl

theorem word_days_fit (today first last : Date) :
    wordDays? today first last = some (ofDays? today first last) := by
  have earliest := word_years_ago_fits today (min first last)
  have latest := word_years_ago_fits today (max first last)
  rw [← Date.max_age] at earliest
  rw [← Date.min_age] at latest
  simp only [wordDays?, Date.word_age_fits, bind, Option.bind_some, earliest, latest]
  rfl

theorem years_ago_anniversary (today bound day : Date) :
    yearsAgo? today (Date.age bound today) = some day ↔ day.figures = Date.nextAnniversary today bound := by
  rw [years_ago_some_iff, Date.nextAnniversary, Date.figures_eq_iff]
  rfl

theorem of_days_anniversaries (today first last : Date) (range : BirthRange) :
    ofDays? today first last = some range ↔
      range.earliest.figures = Date.nextAnniversary today (min first last) ∧
        range.latest.figures = Date.nextAnniversary today (max first last) := by
  rw [of_days_some_iff, Date.max_age, Date.min_age, years_ago_anniversary, years_ago_anniversary]

theorem anniversary_near (today bound day : Date)
    (next : day.figures = Date.nextAnniversary today bound) :
    bound ≤ day ∧ day.figures < figuresOf (bound.year + 1) bound.month bound.day ∧
      Date.age day today = Date.age bound today := by
  obtain ⟨year, month, dayOfMonth⟩ := (Date.figures_eq_iff day _ _ _).mp next
  refine ⟨?_, ?_, ?_⟩
  · rw [Date.le_iff_figures, next]
    exact (Date.next_anniversary_least today bound).1.1
  · rw [next, Date.nextAnniversary, Date.anchor_year_eq, figures_lt_iff]
    by_cases season : Date.seasonLE bound today
    · rw [if_pos season]
      omega
    · rw [if_neg season]
      unfold Date.seasonLE at season
      omega
  · have season : Date.seasonLE day today := .inr ⟨month, Nat.le_of_eq dayOfMonth⟩
    rw [Date.age, if_pos season, year, Date.anchorYear]
    omega

theorem range_of_anniversaries (today first last : Date) :
    ∃ earliest latest : DayFigures,
      IsLeast (Date.anniversaries today (min first last)) earliest ∧
      IsLeast (Date.anniversaries today (max first last)) latest ∧
      ((∃ range, ofDays? today first last = some range) ↔
        (∃ day : Date, day.figures = earliest) ∧ ∃ day : Date, day.figures = latest) ∧
      (∀ range, ofDays? today first last = some range ↔
        range.earliest.figures = earliest ∧ range.latest.figures = latest) ∧
      (∀ range, ofDays? today first last = some range →
        range.earliest ≤ range.latest ∧ min first last ≤ range.earliest ∧
        max first last ≤ range.latest ∧
        range.earliest.figures <
          figuresOf ((min first last).year + 1) (min first last).month (min first last).day ∧
        range.latest.figures <
          figuresOf ((max first last).year + 1) (max first last).month (max first last).day ∧
        Date.age range.earliest today = max (Date.age first today) (Date.age last today) ∧
        Date.age range.latest today = min (Date.age first today) (Date.age last today)) ∧
      wordDays? today first last = some (ofDays? today first last) := by
  have found := of_days_anniversaries today first last
  refine ⟨_, _, Date.next_anniversary_least today (min first last),
    Date.next_anniversary_least today (max first last), ⟨fun there => ?_, fun days => ?_⟩, found,
    fun range given => ?_, word_days_fit today first last⟩
  · obtain ⟨range, given⟩ := there
    obtain ⟨atFirst, atLast⟩ := (found range).mp given
    exact ⟨⟨range.earliest, atFirst⟩, ⟨range.latest, atLast⟩⟩
  · obtain ⟨⟨earliest, atFirst⟩, ⟨latest, atLast⟩⟩ := days
    exact ⟨⟨earliest, latest⟩, (found ⟨earliest, latest⟩).mpr ⟨atFirst, atLast⟩⟩
  · obtain ⟨atFirst, atLast⟩ := (found range).mp given
    obtain ⟨reached, early, older⟩ := anniversary_near today (min first last) range.earliest atFirst
    obtain ⟨lastReached, late, younger⟩ := anniversary_near today (max first last) range.latest atLast
    rw [Date.max_age, Date.min_age]
    refine ⟨?_, reached, lastReached, early, late, older, younger⟩
    -- Both days lie in the same season, so their years decide.
    have years := Date.anchor_year_monotone today (min first last) (max first last) min_le_max
    rw [Date.le_iff_figures, atFirst, atLast, Date.nextAnniversary, Date.nextAnniversary, figures_le_iff]
    omega

end BirthRange
end Horoscope
