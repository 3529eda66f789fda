import Horoscope.Planet

set_option autoImplicit false

namespace Horoscope.PlanetNames

def expandRun (run : Text) : Text :=
  match Planet.ofAbbreviation? run with
  | some planet => planet.name
  | none => run

def expand (text : Text) : Text := (Text.runs text).flatMap expandRun

end Horoscope.PlanetNames
