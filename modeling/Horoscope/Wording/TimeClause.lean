import Horoscope.Term.Mention
import Horoscope.Wording.BirthRange

set_option autoImplicit false

namespace Horoscope.TimeClause

def closing? (m : Mention) : Option (Text × List Period) :=
  match m.term with
  | .periods listed => if Text.allBlank m.after then some (m.before, listed) else none
  | _ => none

def find? (condition : Text) : Option (Text × List Period) := (mentions condition).findSome? closing?

def birthClause (ranges : List BirthRange) : Text :=
  "DOB (".toList ++ ", ".toList.intercalate (ranges.map BirthRange.write) ++ [')']

-- A clause none of whose periods gives a range is left as it is.
def restate (today : Date) (condition : Text) : Text :=
  match find? condition with
  | none => condition
  | some (before, listed) =>
    match listed.filterMap (BirthRange.ofPeriod? today) with
    | [] => condition
    | ranges => before ++ birthClause ranges

end Horoscope.TimeClause
