import Horoscope.Chart
import Horoscope.Term.Basic

set_option autoImplicit false

namespace Horoscope

structure Moment where
  today : Date
  age : Int

def Chart.momentOn (chart : Chart) (today : Date) : Moment := ⟨today, chart.age today⟩

def partner? (a b planet : Planet) : Option Planet :=
  if a = planet then some b else if b = planet then some a else none

namespace Term

def holdsFor (chart : Chart) (planet : Planet) (house : House) : Term → Bool
  | inHouse p h => p == planet && h == house
  | conjunct a b =>
    match (partner? a b planet).bind chart.house? with
    | some other => other == house
    | none => false
  | notWith a b =>
    match (partner? a b planet).bind chart.house? with
    | some other => other != house
    | none => false
  | ages _ | periods _ => false

-- Whether the term leaves the moment open or includes it. An age before birth is never listed.
def holdsAt (moment : Moment) : Term → Bool
  | ages listed => decide (0 ≤ moment.age) && listed.contains moment.age.toNat
  | periods listed => listed.any fun period => period.contains moment.today
  | inHouse _ _ | conjunct _ _ | notWith _ _ => true

end Term

def holds (condition : List Term) (chart : Chart) (moment : Moment) (planet : Planet) : Bool :=
  match chart.house? planet with
  | some house =>
    condition.any (Term.holdsFor chart planet house) && condition.all (Term.holdsAt moment)
  | none => false

end Horoscope
