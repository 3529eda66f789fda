import Horoscope.Proofs.Date.Order

set_option autoImplicit false

namespace Horoscope

def InWord (n : Int) : Prop := -2147483648 ≤ n ∧ n ≤ 2147483647

instance (n : Int) : Decidable (InWord n) := inferInstanceAs (Decidable (_ ∧ _))

def wordSub? (a b : Int) : Option Int := if InWord (a - b) then some (a - b) else none

theorem word_sub_fits (a b : Int) (fits : InWord (a - b)) : wordSub? a b = some (a - b) := if_pos fits

namespace Date

-- An age where each difference is taken in machine words, or nothing once one overflows.
def wordAge? (birth day : Date) : Option Int := do
  let years ← wordSub? day.year birth.year
  wordSub? years (if seasonLE birth day then 0 else 1)

theorem year_bounds (day : Date) : -262143 ≤ day.year ∧ day.year ≤ 262142 := day.real.1

theorem age_bounds (birth day : Date) :
    day.year - birth.year - 1 ≤ age birth day ∧ age birth day ≤ day.year - birth.year := by
  rw [age]
  split <;> omega

theorem word_age_fits (birth day : Date) : wordAge? birth day = some (age birth day) := by
  have born := birth.year_bounds
  have current := day.year_bounds
  have bounds := age_bounds birth day
  have years : InWord (day.year - birth.year) := by
    unfold InWord
    omega
  have whole : InWord (age birth day) := by
    unfold InWord
    omega
  rw [wordAge?, word_sub_fits _ _ years]
  exact word_sub_fits _ _ whole

def yearsOn (day : Date) (years : Int) : DayFigures := figuresOf (day.year + years) day.month day.day

theorem years_on_zero (day : Date) : yearsOn day 0 = day.figures := by
  rw [yearsOn, Int.add_zero, figures]

theorem years_on_moved (first second : Date) (years further : Int) :
    yearsOn first (years + further) ≤ yearsOn second further ↔ yearsOn first years ≤ second.figures := by
  rw [yearsOn, yearsOn, yearsOn, figures, figures_le_iff, figures_le_iff]
  omega

-- An age is the most years that a birth can be moved on without passing the day.
theorem le_age_iff (birth day : Date) (years : Int) :
    years ≤ age birth day ↔ yearsOn birth years ≤ day.figures := by
  have reached : yearsOn birth years ≤ day.figures ↔
      birth.year + years < day.year ∨ (birth.year + years = day.year ∧ seasonLE birth day) :=
    figures_le_iff _ _ _ _ _ _
  rw [reached, age]
  by_cases season : seasonLE birth day
  · simp only [season, and_true, if_true]
    omega
  · simp only [season, and_false, or_false, if_false]
    omega

theorem age_reached (birth day : Date) : yearsOn birth (age birth day) ≤ day.figures :=
  (le_age_iff birth day _).mp (Int.le_refl _)

def YearsOver (birth day : Date) (years : Int) : Prop :=
  yearsOn birth years ≤ day.figures ∧ day.figures < yearsOn birth (years + 1)

theorem years_over_iff (birth day : Date) (years : Int) :
    YearsOver birth day years ↔ years = age birth day := by
  rw [YearsOver, ← not_le, ← le_age_iff, ← le_age_iff]
  omega

theorem age_monotone (birth first second : Date) (ordered : first ≤ second) :
    age birth first ≤ age birth second := by
  rw [le_age_iff]
  exact le_trans (age_reached birth first) ((le_iff_figures first second).mp ordered)

theorem age_antitone (first second day : Date) (ordered : first ≤ second) : age second day ≤ age first day := by
  have reached := age_reached second day
  rw [le_iff_figures, ← years_on_zero first] at ordered
  have moved := (years_on_moved first second 0 (age second day)).mpr ordered
  rw [Int.zero_add] at moved
  rw [le_age_iff]
  exact le_trans moved reached

theorem age_over_between (birth between day : Date) :
    age birth between + age between day ≤ age birth day := by
  rw [le_age_iff]
  have first := (years_on_moved birth between _ (age between day)).mpr (age_reached birth between)
  exact le_trans first (age_reached between day)

theorem age_short_between (birth between day : Date) :
    age birth day ≤ age birth between + age between day + 1 := by
  obtain ⟨-, first⟩ := (years_over_iff birth between _).mpr rfl
  obtain ⟨-, second⟩ := (years_over_iff between day _).mpr rfl
  have moved := (not_congr (years_on_moved birth between _ (age between day + 1))).mpr (not_le.mpr first)
  have beyond : ¬ age birth between + 1 + (age between day + 1) ≤ age birth day := by
    rw [le_age_iff]
    intro reached
    exact absurd (lt_trans (lt_of_le_of_lt reached second) (not_le.mp moved)) (lt_irrefl _)
  omega

theorem age_counts_years :
    (∀ (birth day : Date) (years : Int), YearsOver birth day years ↔ years = age birth day) ∧
    (∀ birth first second : Date, first ≤ second → age birth first ≤ age birth second) ∧
    (∀ first second day : Date, first ≤ second → age second day ≤ age first day) ∧
    (∀ birth between day : Date,
      age birth day - (age birth between + age between day) = 0 ∨
        age birth day - (age birth between + age between day) = 1) ∧
    ∀ birth day : Date, wordAge? birth day = some (age birth day) := by
  refine ⟨years_over_iff, age_monotone, age_antitone, fun birth between day => ?_, word_age_fits⟩
  have least := age_over_between birth between day
  have most := age_short_between birth between day
  omega

def leapDay : Date := ⟨2000, 2, 29, by decide⟩
def lastOfFebruary : Date := ⟨2021, 2, 28, by decide⟩
def firstOfMarch : Date := ⟨2021, 3, 1, by decide⟩

theorem leap_day_years :
    YearsOver leapDay lastOfFebruary 20 ∧ YearsOver leapDay firstOfMarch 21 ∧
      lastOfFebruary ≤ firstOfMarch ∧ age leapDay lastOfFebruary ≤ age leapDay firstOfMarch := by
  obtain ⟨counted, monotone, -⟩ := age_counts_years
  have ordered : lastOfFebruary ≤ firstOfMarch := by decide
  exact ⟨(counted _ _ _).mpr rfl, (counted _ _ _).mpr rfl, ordered, monotone _ _ _ ordered⟩

end Date
end Horoscope
