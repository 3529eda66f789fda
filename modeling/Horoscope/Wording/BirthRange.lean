import Horoscope.Date.Written
import Horoscope.Period

set_option autoImplicit false

namespace Horoscope

structure BirthRange where
  earliest : Date
  latest : Date
deriving DecidableEq

namespace BirthRange

def yearsAgo? (today : Date) (years : Int) : Option Date :=
  Date.ofYMD? (today.year - years) today.month today.day

def ofDays? (today first last : Date) : Option BirthRange := do
  let ageOfFirst := Date.age first today
  let ageOfLast := Date.age last today
  let earliest ← yearsAgo? today (max ageOfFirst ageOfLast)
  let latest ← yearsAgo? today (min ageOfFirst ageOfLast)
  return ⟨earliest, latest⟩

def ofPeriod? (today : Date) (period : Period) : Option BirthRange := do
  ofDays? today period.start (← period.bound.lastDay? today)

def write (range : BirthRange) : Text :=
  Date.write range.earliest ++ " to ".toList ++ Date.write range.latest

end BirthRange
end Horoscope
