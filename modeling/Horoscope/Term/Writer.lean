import Horoscope.Date.Written
import Horoscope.Term.Basic

set_option autoImplicit false

namespace Horoscope

namespace PeriodEnd

def write : PeriodEnd → Text
  | on day => ' ' :: Date.write day
  | withYear year => ' ' :: Date.writeYear year
  | ongoing => [' ']

end PeriodEnd

namespace Period

def write (period : Period) : Text :=
  '(' :: Date.write period.start ++ " to".toList ++ PeriodEnd.write period.bound ++ [')']

end Period

namespace Term

def write : Term → Text
  | inHouse planet house => planet.abbreviation ++ " in ".toList ++ Decimal.write house
  | conjunct a b => a.abbreviation ++ " conjunct ".toList ++ b.abbreviation
  | notWith a b => a.abbreviation ++ " not-with ".toList ++ b.abbreviation
  | ages listed => "AGE(".toList ++ ['/'].intercalate (listed.map Decimal.write) ++ [')']
  | periods listed => "TIME(".toList ++ ", ".toList.intercalate (listed.map Period.write) ++ [')']

end Term

def writeCondition (terms : List Term) : Text := " AND ".toList.intercalate (terms.map Term.write)

end Horoscope
