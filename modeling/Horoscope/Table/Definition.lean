import Horoscope.Text.Basic

set_option autoImplicit false

namespace Horoscope.Definition

inductive Token
  | name (text : Text) (isQuoted : Bool)
  | opening
  | closing
  | comma

inductive Place
  | between
  | inName (reversed : Text)
  | inQuotes (close : Char) (reversed : Text)
  | afterQuote (close : Char) (reversed : Text)
  | inLineComment
  | inBlockComment

def isNamePart (c : Char) : Bool := c.isAlphanum || c == '_' || c == '$' || 128 ≤ c.toNat

def enter (c : Char) (next : Option Char) : List Token × Place :=
  if c = '(' then ([.opening], .between)
  else if c = ')' then ([.closing], .between)
  else if c = ',' then ([.comma], .between)
  else if c = '"' ∨ c = '\'' ∨ c = '\x60' then ([], .inQuotes c [])
  else if c = '[' then ([], .inQuotes ']' [])
  else if c = '-' ∧ next = some '-' then ([], .inLineComment)
  else if c = '/' ∧ next = some '*' then ([], .inBlockComment)
  else if isNamePart c then ([], .inName [c])
  else ([], .between)

def close : Place → List Token
  | .inName reversed => [.name reversed.reverse false]
  | .inQuotes _ reversed | .afterQuote _ reversed => [.name reversed.reverse true]
  | .between | .inLineComment | .inBlockComment => []

def step (place : Place) (c : Char) (next : Option Char) : List Token × Place :=
  match place with
  | .between => enter c next
  | .inName reversed =>
    if isNamePart c then ([], .inName (c :: reversed))
    else
      let (tokens, place) := enter c next
      (close (.inName reversed) ++ tokens, place)
  | .inQuotes quote reversed =>
    if c = quote then ([], .afterQuote quote reversed) else ([], .inQuotes quote (c :: reversed))
  | .afterQuote quote reversed =>
    if c = quote then ([], .inQuotes quote (c :: reversed))
    else
      let (tokens, place) := enter c next
      (close (.afterQuote quote reversed) ++ tokens, place)
  | .inLineComment => ([], if c = '\n' then .between else .inLineComment)
  | .inBlockComment => ([], if c = '*' ∧ next = some '/' then .between else .inBlockComment)

def tokens (place : Place) : Text → List Token
  | [] => close place
  | c :: rest =>
    let (found, place) := step place c rest.head?
    found ++ tokens place rest

def isConstraint (word : Text) : Bool :=
  ["constraint", "primary", "unique", "check", "foreign"].any fun w => Text.sameLetters w.toList word

def columnsFrom : Nat → Bool → List Token → List Text
  | _, _, [] => []
  | depth, fresh, .opening :: rest => columnsFrom (depth + 1) (fresh || depth == 0) rest
  | depth, _, .closing :: rest => if depth ≤ 1 then [] else columnsFrom (depth - 1) false rest
  | depth, fresh, .comma :: rest => columnsFrom depth (fresh || depth == 1) rest
  | depth, fresh, .name text isQuoted :: rest =>
    if depth = 1 ∧ fresh then
      if !isQuoted && isConstraint text then columnsFrom depth false rest
      else text :: columnsFrom depth false rest
    else columnsFrom depth fresh rest

def columns (statement : Text) : List Text := columnsFrom 0 false (tokens .between statement)

end Horoscope.Definition
