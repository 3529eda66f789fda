import Horoscope.Table.Basic

set_option autoImplicit false

namespace Horoscope.Cell

def rank : Cell → Nat
  | null => 0
  | integer _ | real _ => 1
  | encoded _ => 2
  | blob _ => 3

def integerLE (n : Int) (x : Float) : Bool :=
  if x < -9223372036854775808 then false
  else if 9223372036854775808 ≤ x then true
  else
    let whole := x.toInt64.toInt
    decide (n < whole) || (n == whole && decide (Float.ofInt n ≤ x))

def realLE (x : Float) (n : Int) : Bool :=
  if x < -9223372036854775808 then true
  else if 9223372036854775808 ≤ x then false
  else
    let whole := x.toInt64.toInt
    decide (whole < n) || (n == whole && decide (x ≤ Float.ofInt n))

def le : Cell → Cell → Bool
  | integer a, integer b => decide (a ≤ b)
  | integer a, real b => integerLE a b
  | real a, integer b => realLE a b
  | real a, real b => decide (a ≤ b)
  | encoded a, encoded b => decide (a ≤ b)
  | blob a, blob b => decide (a ≤ b)
  | a, b => decide (a.rank ≤ b.rank)

end Horoscope.Cell
