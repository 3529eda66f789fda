import Horoscope.Period
import Horoscope.Planet

set_option autoImplicit false

namespace Horoscope

inductive Term
  | inHouse (planet : Planet) (house : House)
  | conjunct (a b : Planet)
  | notWith (a b : Planet)
  | ages (listed : List Nat)
  | periods (listed : List Period)
deriving DecidableEq

end Horoscope
