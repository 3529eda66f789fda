import Horoscope.Bank.Basic
import Horoscope.Matching
import Horoscope.Random.Choice
import Horoscope.Term.Mention

set_option autoImplicit false

namespace Horoscope

namespace Rule

def holds (rule : Rule) (chart : Chart) (moment : Moment) (planet : Planet) : Bool :=
  Horoscope.holds (terms rule.condition) chart moment planet

end Rule

namespace Bank

def matching (bank : Bank) (chart : Chart) (moment : Moment) (planet : Planet) : List Nat :=
  (bank.rows.filter fun row => row.rule.holds chart moment planet).map Row.id

def matchingPlacement (bank : Bank) (chart : Chart) (moment : Moment) :
    Option (Planet × House) → List Nat
  | some (planet, _) => bank.matching chart moment planet
  | none => []

end Bank

def Chart.drawPlanet {σ : Type} [RandomSource σ] (chart : Chart) (source : σ) :
    Option (Planet × House) × σ :=
  RandomSource.draw chart.placements source

namespace Bank

def matchingDrawn {σ : Type} [RandomSource σ] (bank : Bank) (chart : Chart) (moment : Moment)
    (source : σ) : List Nat × σ :=
  let (chosen, source) := chart.drawPlanet source
  (bank.matchingPlacement chart moment chosen, source)

end Bank
end Horoscope
