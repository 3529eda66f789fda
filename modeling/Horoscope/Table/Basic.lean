import Horoscope.Text.Basic

set_option autoImplicit false

namespace Horoscope

-- A cell of text holds whatever bytes were put in as text. They need not be UTF-8,
-- and only a reader that wants characters finds out.
inductive Cell
  | null
  | encoded (bytes : Bytes)
  | integer (value : Int)
  | real (value : Float)
  | blob (value : Bytes)

namespace Cell

def text (value : Text) : Cell := encoded value.bytes

def text? : Cell → Option Text
  | encoded bytes => Text.ofBytes? bytes
  | null | integer _ | real _ | blob _ => none

end Cell

structure Table where
  name : Text
  columns : List Text
  rows : List (Int × List Cell)

abbrev Database := List Table

namespace Table

def empty (name : Text) (columns : List Text) : Table := ⟨name, columns, []⟩

def nextNumber (table : Table) : Int :=
  match (table.rows.map Prod.fst).max? with
  | some greatest => greatest + 1
  | none => 1

def insert (table : Table) (number? : Option Int) (cells : List Cell) : Table :=
  { table with rows := table.rows ++ [(number?.getD table.nextNumber, cells)] }

def column? (table : Table) (name : Text) : Option Nat :=
  table.columns.findIdx? (Text.sameLetters name)

end Table

namespace Database

def table? (db : Database) (name : Text) : Option Table :=
  db.find? fun table => Text.sameLetters name table.name

end Database
end Horoscope
