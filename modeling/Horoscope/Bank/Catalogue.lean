import Horoscope.Bank.Basic
import Horoscope.Text.Blank
import Horoscope.Text.Decimal
import Horoscope.Text.Word

set_option autoImplicit false

namespace Horoscope

namespace Row

def catalogueLine (row : Row) : Text :=
  Decimal.write row.id ++ ". ".toList ++ Text.trim row.rule.result ++ ['\n']

end Row

namespace Bank

def catalogue (bank : Bank) : Text :=
  (bank.rows.filter fun row => !Text.allBlank row.rule.result).flatMap Row.catalogueLine

def numberOfRun? (run : Text) : Option Nat :=
  if run.all Char.isDigit then some (Decimal.value run) else none

def rankedIds (bank : Bank) (answer : Text) : List Nat :=
  ((Text.runs answer).filterMap numberOfRun?).filter bank.hasRow

def insertId (id : Nat) : List Nat → List Nat
  | [] => [id]
  | other :: rest =>
    if id < other then id :: other :: rest
    else if id = other then other :: rest
    else other :: insertId id rest

def unionIds (matched ranked : List Nat) : List Nat := (matched ++ ranked).foldr insertId []

end Bank
end Horoscope
