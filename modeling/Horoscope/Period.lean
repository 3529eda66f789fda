import Horoscope.Date.Basic

set_option autoImplicit false

namespace Horoscope

inductive PeriodEnd
  | on (day : Date)
  | withYear (year : Int)
  | ongoing
deriving DecidableEq

namespace PeriodEnd

-- The last day as seen from `today`. In the current year a bare year reaches to today.
def lastDay? (bound : PeriodEnd) (today : Date) : Option Date :=
  match bound with
  | on day => some day
  | withYear year => if year = today.year then some today else Date.ofYMD? year 12 31
  | ongoing => some today

end PeriodEnd

structure Period where
  start : Date
  bound : PeriodEnd
deriving DecidableEq

namespace Period

def contains (period : Period) (today : Date) : Bool :=
  match period.bound.lastDay? today with
  | some last => decide (period.start ≤ today) && decide (today ≤ last)
  | none => false

theorem contains_iff (period : Period) (today : Date) :
    period.contains today = true ↔
      ∃ last, period.bound.lastDay? today = some last ∧ period.start ≤ today ∧ today ≤ last := by
  rw [contains]
  cases resolved : period.bound.lastDay? today with
  | none => simp
  | some last => simp

end Period
end Horoscope
