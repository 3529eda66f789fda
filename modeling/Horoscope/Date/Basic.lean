set_option autoImplicit false

namespace Horoscope

-- The proleptic Gregorian calendar, with year 0 and years before it.
def isLeapYear (year : Int) : Bool := year % 4 == 0 && (year % 100 != 0 || year % 400 == 0)

def daysInMonth (year : Int) (month : Nat) : Nat :=
  match month with
  | 2 => if isLeapYear year then 29 else 28
  | 4 | 6 | 9 | 11 => 30
  | _ => 31

namespace Date

def firstYear : Int := -262143
def lastYear : Int := 262142

def Exists (year : Int) (month day : Nat) : Prop :=
  (firstYear ≤ year ∧ year ≤ lastYear) ∧ (1 ≤ month ∧ month ≤ 12) ∧
    1 ≤ day ∧ day ≤ daysInMonth year month

instance (year : Int) (month day : Nat) : Decidable (Exists year month day) :=
  inferInstanceAs (Decidable (_ ∧ _))

end Date

structure Date where
  year : Int
  month : Nat
  day : Nat
  real : Date.Exists year month day
deriving DecidableEq

namespace Date

def ofYMD? (year : Int) (month day : Nat) : Option Date :=
  if real : Exists year month day then some ⟨year, month, day, real⟩ else none

theorem of_ymd_some_iff {year : Int} {month day : Nat} {d : Date} :
    ofYMD? year month day = some d ↔ d.year = year ∧ d.month = month ∧ d.day = day := by
  unfold ofYMD?
  constructor
  · intro made
    split at made
    · cases made; exact ⟨rfl, rfl, rfl⟩
    · cases made
  · rintro ⟨rfl, rfl, rfl⟩
    simp [d.real]

def seasonLE (a b : Date) : Prop := a.month < b.month ∨ (a.month = b.month ∧ a.day ≤ b.day)

instance (a b : Date) : Decidable (seasonLE a b) := inferInstanceAs (Decidable (_ ∨ _))

instance : LE Date := ⟨fun a b => a.year < b.year ∨ (a.year = b.year ∧ seasonLE a b)⟩

instance (a b : Date) : Decidable (a ≤ b) := inferInstanceAs (Decidable (_ ∨ _))

def age (birth day : Date) : Int :=
  day.year - birth.year - if seasonLE birth day then 0 else 1

end Date
end Horoscope
