import Horoscope.Term.Reader

set_option autoImplicit false

namespace Horoscope

structure Mention where
  passed : Text
  text : Text
  term : Term
  after : Text

namespace Mention

def before (m : Mention) : Text := m.passed.reverse

def start (m : Mention) : Nat := Text.byteLength m.passed

def stop (m : Mention) : Nat := m.start + (Text.byteLength m.text - Text.byteLength m.after)

end Mention

def startsWord (passed : Text) (c : Char) : Bool := isNameChar c && !passed.head?.any isNameChar

def mentionAt? (passed : Text) (c : Char) (rest : Text) : Option Mention :=
  if startsWord passed c then
    (Term.read (c :: rest)).map fun (term, after) => ⟨passed, c :: rest, term, after⟩
  else none

-- A term is looked for wherever a word of the notation begins, so mentions may overlap.
def mentionsFrom (passed : Text) : Text → List Mention
  | [] => []
  | c :: rest => (mentionAt? passed c rest).toList ++ mentionsFrom (c :: passed) rest

def mentions (text : Text) : List Mention := mentionsFrom [] text

def terms (text : Text) : List Term := (mentions text).map Mention.term

end Horoscope
