import Horoscope.Text.Basic

set_option autoImplicit false

namespace Horoscope.Text

def findsFrom (find : Option Char → Text → Option (Text × Text)) (before : Option Char) :
    Nat → Text → List Text
  | _, [] => []
  | skipped + 1, c :: rest => findsFrom find (some c) skipped rest
  | 0, c :: rest =>
    match find before (c :: rest) with
    | some (found, after) => found :: findsFrom find (some c) (rest.length - after.length) rest
    | none => findsFrom find (some c) 0 rest

def finds (find : Option Char → Text → Option (Text × Text)) (text : Text) : List Text :=
  findsFrom find none 0 text

end Horoscope.Text
