import Horoscope.Period
import Horoscope.Proofs.Date.Order
import Mathlib.Order.Interval.Set.OrdConnected
import Mathlib.Order.UpperLower.Basic

set_option autoImplicit false

namespace Horoscope

namespace Date

def yearEnd (year : Int) (inRange : firstYear ≤ year ∧ year ≤ lastYear) : Date :=
  ⟨year, 12, 31, inRange, by decide, by decide, Nat.le_refl 31⟩

theorem le_year_end_iff (day : Date) (year : Int) (inRange : firstYear ≤ year ∧ year ≤ lastYear) :
    day ≤ yearEnd year inRange ↔ day.year ≤ year := by
  obtain ⟨-, ⟨-, month⟩, -, dayOfMonth⟩ := day.real
  have season : seasonLE day (yearEnd year inRange) := by
    rcases Nat.lt_or_eq_of_le month with before | december
    · exact .inl before
    · rw [december] at dayOfMonth
      exact .inr ⟨december, dayOfMonth⟩
  rw [le_iff, and_iff_left season]
  exact Int.le_iff_lt_or_eq.symm

end Date

namespace Period

def days (period : Period) : Set Date := {day | period.contains day = true}

theorem mem_days_iff (period : Period) (day : Date) :
    day ∈ period.days ↔
      ∃ last, period.bound.lastDay? day = some last ∧ period.start ≤ day ∧ day ≤ last :=
  period.contains_iff day

theorem days_ongoing (start : Date) : days ⟨start, .ongoing⟩ = Set.Ici start := by
  ext day
  rw [mem_days_iff, Set.mem_Ici]
  simp [PeriodEnd.lastDay?]

theorem days_on (start last : Date) : days ⟨start, .on last⟩ = Set.Icc start last := by
  ext day
  rw [mem_days_iff, Set.mem_Icc]
  simp [PeriodEnd.lastDay?]

-- Within the year itself every day is its own last day, so that no day of the year is left out.
theorem days_with_year (start : Date) (year : Int)
    (inRange : Date.firstYear ≤ year ∧ year ≤ Date.lastYear) :
    days ⟨start, .withYear year⟩ = Set.Icc start (Date.yearEnd year inRange) := by
  ext day
  rw [mem_days_iff, Set.mem_Icc, Date.le_year_end_iff, PeriodEnd.lastDay?]
  by_cases current : year = day.year
  · simp [current]
  · have resolved : Date.ofYMD? year 12 31 = some (Date.yearEnd year inRange) :=
      Date.of_ymd_some_iff.mpr ⟨rfl, rfl, rfl⟩
    simp [if_neg current, resolved, Date.le_year_end_iff]

theorem days_beyond (start : Date) (year : Int) (beyond : ¬ (Date.firstYear ≤ year ∧ year ≤ Date.lastYear)) :
    days ⟨start, .withYear year⟩ = ∅ := by
  rw [Set.eq_empty_iff_forall_notMem]
  intro day member
  obtain ⟨last, resolved, -⟩ := (mem_days_iff _ day).mp member
  rw [PeriodEnd.lastDay?] at resolved
  by_cases current : year = day.year
  · rw [current] at beyond
    exact beyond day.real.1
  · rw [if_neg current] at resolved
    rw [← (Date.of_ymd_some_iff.mp resolved).1] at beyond
    exact beyond last.real.1

theorem days_connected (period : Period) : period.days.OrdConnected := by
  obtain ⟨start, bound⟩ := period
  cases bound with
  | on last =>
      rw [days_on]
      exact Set.ordConnected_Icc
  | withYear year =>
      by_cases inRange : Date.firstYear ≤ year ∧ year ≤ Date.lastYear
      · rw [days_with_year start year inRange]
        exact Set.ordConnected_Icc
      · rw [days_beyond start year inRange]
        exact Set.ordConnected_empty
  | ongoing =>
      rw [days_ongoing]
      exact Set.ordConnected_Ici

theorem days_exact (start : Date) :
    days ⟨start, .ongoing⟩ = Set.Ici start ∧
    (∀ last, days ⟨start, .on last⟩ = Set.Icc start last) ∧
    (∀ (year : Int) (inRange : Date.firstYear ≤ year ∧ year ≤ Date.lastYear),
      days ⟨start, .withYear year⟩ = {day | start ≤ day ∧ day.year ≤ year} ∧
      days ⟨start, .withYear year⟩ = days ⟨start, .on (Date.yearEnd year inRange)⟩ ∧
      ∀ today : Date, today.year = year → (PeriodEnd.withYear year).lastDay? today = some today) ∧
    (∀ bound, (days ⟨start, bound⟩).OrdConnected) ∧
    IsUpperSet (days ⟨start, .ongoing⟩) := by
  refine ⟨days_ongoing start, days_on start, fun year inRange => ⟨?_, ?_, ?_⟩,
    fun bound => days_connected ⟨start, bound⟩, ?_⟩
  · rw [days_with_year start year inRange]
    ext day
    rw [Set.mem_Icc, Date.le_year_end_iff]
    rfl
  · rw [days_with_year start year inRange, days_on]
  · intro today same
    exact if_pos same.symm
  · rw [days_ongoing]
    exact isUpperSet_Ici start

def lateSeptember : Date := ⟨2022, 9, 30, by decide⟩
def midAugust : Date := ⟨2024, 8, 19, by decide⟩

theorem days_through_this_year :
    ∃ inRange : Date.firstYear ≤ 2024 ∧ 2024 ≤ Date.lastYear,
      (PeriodEnd.withYear 2024).lastDay? midAugust = some midAugust ∧
        days ⟨lateSeptember, .withYear 2024⟩ = days ⟨lateSeptember, .on (Date.yearEnd 2024 inRange)⟩ := by
  have inRange : Date.firstYear ≤ 2024 ∧ 2024 ≤ Date.lastYear := by decide
  obtain ⟨-, -, withYear, -⟩ := days_exact lateSeptember
  obtain ⟨-, asDated, clamped⟩ := withYear 2024 inRange
  exact ⟨inRange, clamped midAugust rfl, asDated⟩

end Period
end Horoscope
