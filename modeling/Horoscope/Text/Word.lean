import Horoscope.Text.Alphabetic
import Horoscope.Text.Basic
import Horoscope.Text.DecimalDigit
import Horoscope.Text.Edition
import Horoscope.Text.Mark
import Horoscope.Text.Numeric

set_option autoImplicit false

namespace Horoscope

def isNameChar (c : Char) : Bool := isAlphabetic c || isNumeric c || c == '_'

-- A character that carries a word of the notation on; those to come are among them.
def extendsName (c : Char) : Bool := isNameChar c || isEighteenth c

def isConnector (c : Char) : Bool :=
  let n := c.toNat
  n == 0x5f || n == 0x203f || n == 0x2040 || n == 0x2054 || n == 0xfe33 || n == 0xfe34 ||
    (0xfe4d ≤ n && n ≤ 0xfe4f) || n == 0xff3f

def isJoiner (c : Char) : Bool := c.toNat == 0x200c || c.toNat == 0x200d

def isWordChar (c : Char) : Bool :=
  (isAlphabetic c || isMark c || isDecimalDigit c || isConnector c || isJoiner c) &&
    !isSeventeenth c

namespace Text

def atWordEnd (text : Text) : Bool := !text.head?.any extendsName

def runs (text : Text) : List Text := text.splitBy fun a b => isWordChar a == isWordChar b

end Text
end Horoscope
