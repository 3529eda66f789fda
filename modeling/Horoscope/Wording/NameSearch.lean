import Horoscope.Wording.PlanetNames

set_option autoImplicit false

namespace Horoscope.NameSearch

-- The long s is a case of s, and the sign of the kelvin one of k. Other letters of abbreviations
-- have no case beyond ASCII.
def sameCaseless (letter c : Char) : Bool :=
  c.toLower == letter || (letter == 's' && c.toNat == 0x17f) || (letter == 'k' && c.toNat == 0x212a)

def caseless : Text → Text → Option (Text × Text)
  | [], text => some ([], text)
  | _ :: _, [] => none
  | k :: ks, c :: rest =>
    if sameCaseless k c then (caseless ks rest).map fun (written, after) => (c :: written, after)
    else none

def boundary (before after : Option Char) : Bool := before.any isWordChar != after.any isWordChar

def findName (before : Option Char) (text : Text) (planet : Planet) : Option (Text × Text) :=
  (caseless planet.abbreviation text).filter fun (written, after) =>
    boundary before text.head? && boundary written.getLast? after.head?

def findHere (before : Option Char) (text : Text) : Option (Text × Text) :=
  Planet.all.findSome? (findName before text)

inductive Piece
  | kept (c : Char)
  | found (written : Text)

namespace Piece

def source : Piece → Text
  | kept c => [c]
  | found written => written

-- A find is looked up in ASCII cases only, and stays if that knows no such planet.
def replaced : Piece → Text
  | kept c => [c]
  | found written => PlanetNames.expandRun written

end Piece

-- The characters before the text are kept last first. Skips those that a find covers.
def piecesFrom (passed : Text) : Nat → Text → List Piece
  | _, [] => []
  | skipped + 1, c :: rest => piecesFrom (c :: passed) skipped rest
  | 0, c :: rest =>
    match findHere passed.head? (c :: rest) with
    | some (written, after) =>
      .found written :: piecesFrom (c :: passed) (rest.length - after.length) rest
    | none => .kept c :: piecesFrom (c :: passed) 0 rest

def pieces (text : Text) : List Piece := piecesFrom [] 0 text

def substitute (text : Text) : Text := (pieces text).flatMap Piece.replaced

end Horoscope.NameSearch
