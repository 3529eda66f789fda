import Horoscope.Bank.Catalogue
import Horoscope.Text.Search
import Horoscope.Wording.NameSearch

set_option autoImplicit false

namespace Horoscope.NumberSearch

def isProseDigit (c : Char) : Bool := isDecimalDigit c && !isSeventeenth c

-- The longest stretch of digits at the front behind which a word begins or ends.
def digitsToBoundary : Text → Option (Text × Text)
  | [] => none
  | c :: rest =>
    if isProseDigit c then
      match digitsToBoundary rest with
      | some (written, after) => some (c :: written, after)
      | none => if NameSearch.boundary (some c) rest.head? then some ([c], rest) else none
    else none

def findHere (before : Option Char) (text : Text) : Option (Text × Text) :=
  if NameSearch.boundary before text.head? then digitsToBoundary text else none

def rankedIds (bound : Nat) (bank : Bank) (answer : Text) : List Nat :=
  ((Text.finds findHere answer).filterMap fun found => (Decimal.read bound found).toOption).filter bank.hasRow

end Horoscope.NumberSearch
