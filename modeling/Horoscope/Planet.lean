import Horoscope.Text.Keyword
import Horoscope.Text.Word

set_option autoImplicit false

namespace Horoscope

inductive Planet
  | sun | moon | mars | mercury | jupiter | venus | saturn | rahu | ketu
deriving DecidableEq, Repr

-- A house of the chart. Charts that are read keep to 1 through 12; conditions may name others.
abbrev House := Nat

namespace Planet

def all : List Planet := [sun, moon, mars, mercury, jupiter, venus, saturn, rahu, ketu]

theorem mem_all (p : Planet) : p ∈ all := by cases p <;> decide

def abbreviation : Planet → Text
  | sun => "sun".toList
  | moon => "moon".toList
  | mars => "mars".toList
  | mercury => "mer".toList
  | jupiter => "jup".toList
  | venus => "ven".toList
  | saturn => "sat".toList
  | rahu => "rahu".toList
  | ketu => "ketu".toList

def name : Planet → Text
  | sun => "Sun".toList
  | moon => "Moon".toList
  | mars => "Mars".toList
  | mercury => "Mercury".toList
  | jupiter => "Jupiter".toList
  | venus => "Venus".toList
  | saturn => "Saturn".toList
  | rahu => "Rahu".toList
  | ketu => "Ketu".toList

def ofAbbreviation? (name : Text) : Option Planet :=
  all.find? fun p => Text.sameLetters p.abbreviation name

def ofName? (name : Text) : Option Planet := all.find? fun p => p.name == name

theorem of_name_name (p : Planet) : ofName? p.name = some p := by
  cases p <;> decide

theorem of_abbreviation_abbreviation (p : Planet) : ofAbbreviation? p.abbreviation = some p := by
  cases p <;> decide

def readName (p : Planet) (text : Text) : Option Text := do
  let rest ← Text.keyword p.abbreviation text
  if Text.atWordEnd rest then some rest else none

def read (text : Text) : Option (Planet × Text) :=
  all.findSome? fun p => (p.readName text).map fun rest => (p, rest)

end Planet
end Horoscope
