import Horoscope.Date.Written
import Horoscope.Planet

set_option autoImplicit false

namespace Horoscope

structure Chart where
  birth : Date
  house? : Planet → Option House

namespace Chart

def empty (birth : Date) : Chart := ⟨birth, fun _ => none⟩

def place (chart : Chart) (planet : Planet) (house : House) : Chart :=
  { chart with house? := fun p => if p = planet then some house else chart.house? p }

def ofPlacements (birth : Date) (placements : List (Planet × House)) : Chart :=
  placements.foldl (fun chart (planet, house) => chart.place planet house) (empty birth)

def placements (chart : Chart) : List (Planet × House) :=
  Planet.all.filterMap fun p => (chart.house? p).map fun house => (p, house)

def age (chart : Chart) (day : Date) : Int := Date.age chart.birth day

end Chart

inductive ChartWarning
  | unknownPlanet (name : Text)
  | houseOutOfRange (name : Text) (house : Int)
deriving DecidableEq

structure BirthError where
  text : Text
  cause : DateError
deriving DecidableEq

namespace Chart

def readPlacement (entry : Text × Int) : Except ChartWarning (Planet × House) :=
  match Planet.ofName? entry.1 with
  | none => .error (.unknownPlanet entry.1)
  | some planet =>
    if 1 ≤ entry.2 ∧ entry.2 ≤ 12 then .ok (planet, entry.2.toNat)
    else .error (.houseOutOfRange entry.1 entry.2)

def keptPlacements (entries : List (Text × Int)) : List (Planet × House) :=
  entries.filterMap fun entry => (readPlacement entry).toOption

def warnings (entries : List (Text × Int)) : List ChartWarning :=
  entries.filterMap fun entry =>
    match readPlacement entry with
    | .error warning => some warning
    | .ok _ => none

def ofEntries (birth : Text) (entries : List (Text × Int)) : Except BirthError Chart :=
  match Date.readBirth birth with
  | .ok day => .ok (ofPlacements day (keptPlacements entries))
  | .error cause => .error ⟨birth, cause⟩

end Chart
end Horoscope
