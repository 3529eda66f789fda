import Horoscope.Date.Basic
import Horoscope.Term.Basic
import Horoscope.Text.Blank
import Horoscope.Text.Decimal
import Horoscope.Text.Keyword

set_option autoImplicit false

namespace Horoscope

namespace Date

def readFigures (text : Text) : Option ((Nat × Nat × Nat) × Text) := do
  let (year, rest) ← Decimal.readFew 4 4 text
  let rest ← Text.symbol '-' rest
  let (month, rest) ← Decimal.readFew 1 2 rest
  let rest ← Text.symbol '-' rest
  let (day, rest) ← Decimal.readFew 1 2 rest
  return ((year, month, day), rest)

def ofFigures? : Nat × Nat × Nat → Option Date
  | (year, month, day) => ofYMD? year month day

end Date

namespace PeriodEnd

-- Figures of a date have to be a date; anything else that is no year leaves the period open.
def read (text : Text) : Option (PeriodEnd × Text) :=
  match Text.blanks text with
  | none => some (ongoing, text)
  | some text =>
    match Date.readFigures text with
    | some (figures, rest) => (Date.ofFigures? figures).map fun day => (on day, rest)
    | none =>
      match Decimal.readFew 4 4 text with
      | some (year, rest) => some (withYear year, rest)
      | none => some (ongoing, text)

end PeriodEnd

namespace Period

def ofContent? (content : Text) : Option Period := do
  let (figures, rest) ← Date.readFigures (Text.skipBlanks content)
  let rest ← Text.blanks rest
  let rest ← Text.keyword "to".toList rest
  let start ← Date.ofFigures? figures
  let (bound, rest) ← PeriodEnd.read rest
  if Text.allBlank rest then some ⟨start, bound⟩ else none

end Period

namespace Term

def ageBound : Nat := UInt32.size

def agesOf (content : Text) : List Nat :=
  ((content.splitOn '/').mapM fun item => (Decimal.read ageBound (Text.trim item)).toOption).getD []

def readAges (text : Text) : Option (Term × Text) := do
  let rest ← Text.keyword "age".toList text
  let (content, rest) ← Text.group (Text.skipBlanks rest)
  return (ages (agesOf content), rest)

def nextGroup (text : Text) : Option (Text × Text) :=
  Text.group (Text.skipBlanks (Text.optionalSymbol ',' (Text.skipBlanks text)))

def groups : Nat → Text → List Text × Text
  | 0, text => ([], text)
  | most + 1, text =>
    match nextGroup text with
    | some (content, rest) =>
      let (contents, rest) := groups most rest
      (content :: contents, rest)
    | none => ([], text)

-- The closing parenthesis may be missing; blanks before it belong to the clause either way.
def readPeriods (text : Text) : Option (Term × Text) := do
  let rest ← Text.keyword "time".toList text
  let rest ← Text.symbol '(' (Text.skipBlanks rest)
  let (first, rest) ← Text.group (Text.skipBlanks rest)
  let (contents, rest) := groups rest.length rest
  return (periods ((first :: contents).filterMap Period.ofContent?),
    Text.optionalSymbol ')' (Text.skipBlanks rest))

def readPair (link : Text) (term : Planet → Planet → Term) (text : Text) :
    Option (Term × Text) := do
  let (a, rest) ← Planet.read text
  let rest ← Text.blanks rest
  let rest ← Text.keyword link rest
  let rest ← Text.blanks rest
  let (b, rest) ← Planet.read rest
  return (term a b, rest)

def readHouse (text : Text) : Option (House × Text) := do
  let (house, rest) ← Decimal.readFew 1 2 text
  if Text.atWordEnd rest then some (house, rest) else none

def readInHouse (text : Text) : Option (Term × Text) := do
  let (planet, rest) ← Planet.read text
  let rest ← Text.blanks rest
  let rest ← Text.keyword "in".toList rest
  let rest ← Text.blanks rest
  let (house, rest) ← readHouse rest
  return (inHouse planet house, rest)

def read (text : Text) : Option (Term × Text) :=
  readAges text <|> readPeriods text <|> readPair "conjunct".toList conjunct text <|>
    readPair "not-with".toList notWith text <|> readInHouse text

end Term
end Horoscope
