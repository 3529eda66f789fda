import Horoscope.Bank.Basic
import Horoscope.Table.Identifier
import Horoscope.Table.Order
import Horoscope.Text.Quoted

set_option autoImplicit false

namespace Horoscope

inductive LoadError
  | invalidName (name : Text)
  | unreadableTable (name : Text)
  | unreadableRows
deriving DecidableEq

namespace LoadError

def message : LoadError → Text
  | invalidName name => "Invalid table name ".toList ++ Text.quoted name
  | unreadableTable name => "Failed to read rule table ".toList ++ Text.quoted name
  | unreadableRows => "Failed to read rule rows".toList

end LoadError

def Cell.asText? : Cell → Option Text
  | null => some []
  | cell => cell.text?

namespace Table

-- The rows by number, or by the column that takes the place of the number.
def sortedRows (table : Table) : List (Int × List Cell) :=
  let key (row : Int × List Cell) : Cell :=
    match table.column? "rowid".toList with
    | some index => row.2[index]?.getD .null
    | none => .integer row.1
  table.rows.mergeSort fun a b => Cell.le (key a) (key b)

def textAt? (cells : List Cell) (index : Nat) : Option Text := (cells[index]?.getD .null).asText?

def ruleOf? (condition result : Nat) (cells : List Cell) : Option Rule := do
  return ⟨← textAt? cells condition, ← textAt? cells result⟩

def rules (table : Table) : Except LoadError (List Rule) :=
  match table.column? "Condition".toList, table.column? "Result".toList with
  | some condition, some result =>
    match table.sortedRows.mapM fun row => ruleOf? condition result row.2 with
    | some rules => .ok rules
    | none => .error .unreadableRows
  | _, _ => .error (.unreadableTable table.name)

end Table

namespace Bank

def load (db : Database) (name : Text) : Except LoadError Bank :=
  if !Table.isPlainName name then .error (.invalidName name)
  else if !Table.isIdentifier name then .error (.unreadableTable name)
  else
    match db.table? name with
    | none => .error (.unreadableTable name)
    | some table => { table with name := name }.rules.map Bank.mk

end Bank
end Horoscope
