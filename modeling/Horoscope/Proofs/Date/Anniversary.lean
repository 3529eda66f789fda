import Horoscope.Wording.BirthRange

set_option autoImplicit false

namespace Horoscope

namespace Date

theorem le_iff (a b : Date) : a ≤ b ↔ a.year < b.year ∨ (a.year = b.year ∧ seasonLE a b) := Iff.rfl

theorem season_refl (a : Date) : seasonLE a a := .inr ⟨rfl, Nat.le_refl _⟩

theorem ext_iff (a b : Date) : a = b ↔ a.year = b.year ∧ a.month = b.month ∧ a.day = b.day := by
  cases a
  cases b
  simp

def anchorYear (today day : Date) : Int := today.year - age day today

theorem anchor_year_eq (today day : Date) :
    anchorYear today day = day.year + if seasonLE day today then 0 else 1 := by
  rw [anchorYear, age]
  split <;> omega

theorem anchor_year_self (today : Date) : anchorYear today today = today.year := by
  rw [anchor_year_eq, if_pos (season_refl today), Int.add_zero]

theorem anchor_year_bounds (today day : Date) :
    day.year ≤ anchorYear today day ∧ anchorYear today day ≤ day.year + 1 := by
  rw [anchor_year_eq]
  split <;> omega

theorem anchor_year_past (today day : Date) (past : day ≤ today) :
    anchorYear today day ≤ today.year := by
  rw [anchor_year_eq]
  rcases (le_iff day today).mp past with earlier | ⟨same, season⟩
  · split <;> omega
  · rw [if_pos season]
    omega

theorem anchor_year_coming (today day : Date) (coming : today ≤ day) :
    today.year ≤ anchorYear today day := by
  rw [anchor_year_eq]
  rcases (le_iff today day).mp coming with later | ⟨same, season⟩
  · split <;> omega
  · split <;> omega

theorem days_in_other_month (first second : Int) (month : Nat) (other : month ≠ 2) :
    daysInMonth first month = daysInMonth second month := by
  unfold daysInMonth
  split
  · exact absurd rfl other
  · rfl
  · rfl
  · rfl
  · rfl
  · rfl

def IsLeapDay (day : Date) : Prop := day.month = 2 ∧ day.day = 29

instance (day : Date) : Decidable day.IsLeapDay := inferInstanceAs (Decidable (_ ∧ _))

theorem exists_in_year_iff (day : Date) (year : Int) :
    Exists year day.month day.day ↔
      (firstYear ≤ year ∧ year ≤ lastYear) ∧ (day.IsLeapDay → isLeapYear year = true) := by
  obtain ⟨-, month, least, most⟩ := day.real
  rw [Exists]
  apply and_congr_right
  intro inRange
  simp only [month, least, true_and, and_self]
  by_cases february : day.month = 2
  · simp only [IsLeapDay, february, true_and, daysInMonth] at most ⊢
    have short : day.day ≤ 29 := by
      split at most <;> omega
    by_cases leap : isLeapYear year = true
    · simpa [leap] using short
    · rw [if_neg leap]
      refine ⟨fun shorter last => by omega, fun last => ?_⟩
      have apart : day.day ≠ 29 := fun same => leap (last same)
      omega
  · rw [days_in_other_month year day.year _ february]
    exact iff_of_true most fun leapDay => absurd leapDay.1 february

end Date

namespace BirthRange

theorem years_ago_some_iff (today day : Date) (years : Int) :
    yearsAgo? today years = some day ↔
      day.year = today.year - years ∧ day.month = today.month ∧ day.day = today.day :=
  Date.of_ymd_some_iff

theorem years_ago_exists_iff (today : Date) (years : Int) :
    (∃ day, yearsAgo? today years = some day) ↔ Date.Exists (today.year - years) today.month today.day := by
  rw [yearsAgo?, Date.ofYMD?]
  by_cases real : Date.Exists (today.year - years) today.month today.day
  · simp [real]
  · simp [real]

theorem of_days_some_iff (today first last : Date) (range : BirthRange) :
    ofDays? today first last = some range ↔
      yearsAgo? today (max (Date.age first today) (Date.age last today)) = some range.earliest ∧
        yearsAgo? today (min (Date.age first today) (Date.age last today)) = some range.latest := by
  simp only [ofDays?, bind, Option.bind_eq_some_iff, pure, Option.some.injEq]
  apply Iff.intro
  · intro form
    obtain ⟨earliest, foundEarliest, latest, foundLatest, rfl⟩ := form
    exact ⟨foundEarliest, foundLatest⟩
  · intro form
    exact ⟨range.earliest, form.1, range.latest, form.2, rfl⟩

end BirthRange
end Horoscope
