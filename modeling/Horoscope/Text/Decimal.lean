import Horoscope.Text.Basic

set_option autoImplicit false

namespace Horoscope

inductive DecimalError
  | empty
  | notADigit
  | tooLarge
deriving DecidableEq, Repr

namespace DecimalError

def message : DecimalError → Text
  | empty => "cannot parse integer from empty string".toList
  | notADigit => "invalid digit found in string".toList
  | tooLarge => "number too large to fit in target type".toList

end DecimalError

namespace Decimal

def value (digits : Text) : Nat := Nat.ofDigitChars 10 digits 0

def write (n : Nat) : Text := Nat.toDigits 10 n

theorem value_write (n : Nat) : value (write n) = n := Nat.ofDigitChars_ten_toDigits

def digits (text : Text) : Text × Text := (text.takeWhile Char.isDigit, text.dropWhile Char.isDigit)

def readFew (least most : Nat) (text : Text) : Option (Nat × Text) :=
  let front := (text.take most).takeWhile Char.isDigit
  if front.length < least then none else some (value front, text.drop front.length)

def readDigits (bound : Nat) (text : Text) : Except DecimalError Nat :=
  let (front, rest) := digits text
  if bound ≤ value front then .error .tooLarge
  else if front.isEmpty || !rest.isEmpty then .error .notADigit
  else .ok (value front)

def read (bound : Nat) : Text → Except DecimalError Nat
  | [] => .error .empty
  | '+' :: rest => readDigits bound rest
  | text => readDigits bound text

def readSigned? (bound : Nat) : Text → Option Int
  | '-' :: rest => (readDigits (bound + 1) rest).toOption.map fun n => -(n : Int)
  | text => (read bound text).toOption.map fun n => (n : Int)

def writeSigned (n : Int) : Text := if n < 0 then '-' :: write n.natAbs else write n.natAbs

end Decimal
end Horoscope
