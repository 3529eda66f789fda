import Horoscope.Bank.Basic
import Horoscope.Wording.Tidy
import Horoscope.Wording.PlanetNames
import Horoscope.Wording.TimeClause

set_option autoImplicit false

namespace Horoscope

def wording (today : Date) (condition : Text) : Text :=
  Tidy.tidy (PlanetNames.expand (TimeClause.restate today condition))

namespace Rule

def text (today : Date) (rule : Rule) : Text :=
  "Condition: ".toList ++ wording today rule.condition ++ "\nResult: ".toList ++ rule.result ++ ['\n']

end Rule

namespace Bank

def ruleText (bank : Bank) (ids : List Nat) (today : Date) : Text :=
  Text.trimEnd (['\n'].intercalate ((ids.filterMap bank.row?).map fun row => row.rule.text today))

end Bank
end Horoscope
