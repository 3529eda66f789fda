import Horoscope.Bank.Catalogue
import Horoscope.Bank.Matching
import Horoscope.Random.ChaCha
import Horoscope.Table.Load
import Horoscope.Wording.RuleText

set_option autoImplicit false

namespace Horoscope

structure Consultation where
  bank : Bank
  chart : Chart
  today : Date
  random : ChaCha.Stream
  matched : List Nat
  ranked : List Nat
  selected : List Nat

namespace Consultation

def start (birth today : Date) (seed : UInt64) : Consultation :=
  ⟨.empty, .empty birth, today, .ofSeed seed, [], [], []⟩

def age (c : Consultation) : Int := c.chart.age c.today

inductive Step
  | setBank (rules : List Rule)
  | loadBank (db : Database) (table : Text)
  | setChart (birth : Text) (placements : List (Text × Int))
  | setToday (day : Date)
  | setSeed (seed : UInt64)
  | choose
  | matchAny
  | matchPlanet (planet : Planet)
  | rank (answer : Text)
  | combine
  | combineGiven (a b : List Nat)
  | assemble
  | assembleGiven (ids : List Nat)
  | showRow (id : Nat)
  | showCatalogue

inductive Answer
  | bank (bank : Bank)
  | loaded (rows : List Row)
  | notLoaded (error : LoadError)
  | chart (chart : Chart) (age : Int)
  | noChart (error : BirthError)
  | age (age : Int)
  | done
  | chosen (placement : Option (Planet × House))
  | matched (age : Int) (chosen : Option (Planet × House)) (ids : List Nat)
  | ids (ids : List Nat)
  | text (text : Text)
  | row (row : Option Row)

def matchFor (c : Consultation) (chosen : Option (Planet × House)) : Answer × Consultation :=
  let ids := c.bank.matchingPlacement c.chart (c.chart.momentOn c.today) chosen
  (.matched c.age chosen ids, { c with matched := ids })

def step (c : Consultation) : Step → Answer × Consultation
  | .setBank rules => (.bank ⟨rules⟩, { c with bank := ⟨rules⟩ })
  | .loadBank db table =>
    match Bank.load db table with
    | .ok bank => (.loaded bank.rows, { c with bank := bank })
    | .error error => (.notLoaded error, c)
  | .setChart birth placements =>
    match Chart.ofEntries birth placements with
    | .ok chart =>
      let c := { c with chart := chart }
      (.chart chart c.age, c)
    | .error error => (.noChart error, c)
  | .setToday day =>
    let c := { c with today := day }
    (.age c.age, c)
  | .setSeed seed => (.done, { c with random := .ofSeed seed })
  | .choose =>
    let (chosen, random) := c.chart.drawPlanet c.random
    (.chosen chosen, { c with random := random })
  | .matchAny =>
    let (chosen, random) := c.chart.drawPlanet c.random
    { c with random := random }.matchFor chosen
  | .matchPlanet planet =>
    c.matchFor ((c.chart.house? planet).map fun house => (planet, house))
  | .rank answer =>
    let ids := c.bank.rankedIds answer
    (.ids ids, { c with ranked := ids })
  | .combine =>
    let ids := Bank.unionIds c.matched c.ranked
    (.ids ids, { c with selected := ids })
  | .combineGiven a b =>
    let ids := Bank.unionIds a b
    (.ids ids, { c with selected := ids })
  | .assemble => (.text (c.bank.ruleText c.selected c.today), c)
  | .assembleGiven ids => (.text (c.bank.ruleText ids c.today), c)
  | .showRow id => (.row (c.bank.row? id), c)
  | .showCatalogue => (.text c.bank.catalogue, c)

def run (c : Consultation) : List Step → List Answer
  | [] => []
  | s :: rest =>
    let (answer, c) := c.step s
    answer :: c.run rest

end Consultation
end Horoscope
