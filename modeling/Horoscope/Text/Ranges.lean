set_option autoImplicit false

namespace Horoscope

abbrev Ranges := List (Nat × Nat)

namespace Ranges

def contains : Ranges → Nat → Bool
  | [], _ => false
  | (low, high) :: rest, n => if n < low then false else decide (n ≤ high) || contains rest n

end Ranges
end Horoscope
