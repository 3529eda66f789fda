import Horoscope.Text.Blank
import Horoscope.Text.Keyword
import Horoscope.Text.Replace

set_option autoImplicit false

namespace Horoscope.Tidy

def readWrapper (text : Text) : Option (Text × Text) := do
  let rest ← Text.keyword "natal".toList text
  let (inside, rest) ← Text.group (Text.skipBlanks rest)
  if inside.isEmpty then none else some (inside, rest)

def unwrap (text : Text) : Text := Text.replaceAll readWrapper text

def readOperator (word written : Text) (text : Text) : Option (Text × Text) := do
  let rest ← Text.blanks text
  let rest ← Text.keyword word rest
  let rest ← Text.blanks rest
  return (' ' :: written ++ [' '], rest)

def spaceAnd (text : Text) : Text :=
  Text.replaceAll (readOperator "and".toList "AND".toList) text

def spaceOr (text : Text) : Text := Text.replaceAll (readOperator "or".toList "OR".toList) text

def tidy (text : Text) : Text := Text.trim (spaceOr (spaceAnd (unwrap text)))

end Horoscope.Tidy
