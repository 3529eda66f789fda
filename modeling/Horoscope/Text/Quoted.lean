import Horoscope.Text.Decimal
import Horoscope.Text.Extender
import Horoscope.Text.Unprintable

set_option autoImplicit false

namespace Horoscope

-- The halfwidth sound marks. They extend the letter before them, yet have a place of their own.
def isSoundMark (c : Char) : Bool := c.toNat == 0xff9e || c.toNat == 0xff9f

def isFiller (c : Char) : Bool :=
  c.toNat == 0x115f || c.toNat == 0x1160 || c.toNat == 0x3164 || c.toNat == 0xffa0

def isHidden (c : Char) : Bool := (isExtender c && !isSoundMark c) || isFiller c || isUnprintable c

namespace Text

def byCodePoint (c : Char) : Text :=
  "\\u\x7b".toList ++ Nat.toDigits 16 c.toNat ++ ['\x7d']

def visible (c : Char) : Text :=
  if c = '"' ∨ c = '\\' then ['\\', c]
  else if c = '\t' then ['\\', 't']
  else if c = '\r' then ['\\', 'r']
  else if c = '\n' then ['\\', 'n']
  else if c = '\x00' then ['\\', '0']
  else if isHidden c then byCodePoint c
  else [c]

def quoted (text : Text) : Text := '"' :: (text.flatMap visible ++ ['"'])

end Text
end Horoscope
