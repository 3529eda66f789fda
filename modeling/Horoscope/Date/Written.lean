import Horoscope.Date.Basic
import Horoscope.Text.Blank
import Horoscope.Text.Decimal
import Horoscope.Text.Keyword

set_option autoImplicit false

namespace Horoscope

inductive DateError
  | invalid
  | tooShort
  | trailing
  | outOfRange
deriving DecidableEq, Repr

namespace DateError

def message : DateError → Text
  | invalid => "input contains invalid characters".toList
  | tooShort => "premature end of input".toList
  | trailing => "trailing input".toList
  | outOfRange => "input is out of range".toList

end DateError

namespace Date

def padded (width n : Nat) : Text := (Decimal.write n).leftpad width '0'

def writeYear (year : Int) : Text :=
  (if year < 0 then ['-'] else if 9999 < year then ['+'] else []) ++ padded 4 year.natAbs

def write (d : Date) : Text :=
  writeYear d.year ++ '-' :: padded 2 d.month ++ '-' :: padded 2 d.day

def readNumber (most : Nat) (text : Text) : Except DateError (Nat × Text) :=
  let digits := (text.take most).takeWhile Char.isDigit
  match text with
  | [] => .error .tooShort
  | _ => if digits.isEmpty then .error .invalid
    else .ok (Decimal.value digits, text.drop digits.length)

def readYear (text : Text) : Except DateError (Int × Text) := do
  let (year, rest) ← match Text.skipBlanks text with
    | '-' :: digits => (readNumber digits.length digits).map fun (n, rest) => (-(n : Int), rest)
    | '+' :: digits => (readNumber digits.length digits).map fun (n, rest) => ((n : Int), rest)
    | digits => (readNumber 4 digits).map fun (n, rest) => ((n : Int), rest)
  if -2147483648 ≤ year ∧ year < 2147483648 then return (year, rest) else throw .outOfRange

def readPart (last : Nat) (text : Text) : Except DateError (Nat × Text) := do
  let (n, rest) ← readNumber 2 (Text.skipBlanks text)
  if 1 ≤ n ∧ n ≤ last then return (n, rest) else throw .outOfRange

def readDash : Text → Except DateError Text
  | [] => .error .tooShort
  | c :: rest => if c = '-' then .ok rest else .error .invalid

def read (text : Text) : Except DateError Date := do
  let (year, text) ← readYear text
  let text ← readDash text
  let (month, text) ← readPart 12 text
  let text ← readDash text
  let (day, text) ← readPart 31 text
  match text, ofYMD? year month day with
  | _ :: _, _ => throw .trailing
  | [], none => throw .outOfRange
  | [], some d => return d

def readBirth (text : Text) : Except DateError Date :=
  read ((Text.trim text).map fun c => if c = '/' then '-' else c)

end Date
end Horoscope
