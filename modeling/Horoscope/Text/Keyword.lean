import Horoscope.Text.Basic

set_option autoImplicit false

namespace Horoscope.Text

def keyword : Text → Text → Option Text
  | [], text => some text
  | _ :: _, [] => none
  | k :: ks, c :: rest => if c.toLower = k then keyword ks rest else none

def symbol (wanted : Char) : Text → Option Text
  | [] => none
  | c :: rest => if c = wanted then some rest else none

def optionalSymbol (wanted : Char) (text : Text) : Text := (symbol wanted text).getD text

def group (text : Text) : Option (Text × Text) := do
  let inside ← symbol '(' text
  let rest ← symbol ')' (inside.dropWhile (· != ')'))
  return (inside.takeWhile (· != ')'), rest)

end Horoscope.Text
