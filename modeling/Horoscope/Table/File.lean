import Horoscope.Table.Definition
import Horoscope.Table.Page

set_option autoImplicit false

namespace Horoscope

namespace DatabaseFile

def table? (file : DatabaseFile) (entry : List Cell) : Option Table :=
  match entry with
  | [kind, name, _, .integer root, statement] => do
    if (← kind.text?) ≠ "table".toList then none
    let records ← file.records root.toNat
    return ⟨← name.text?, Definition.columns (← statement.text?), records⟩
  | _ => none

end DatabaseFile

def Database.ofBytes? (bytes : ByteArray) : Option Database :=
  if bytes.isEmpty then some []
  else do
    let file ← DatabaseFile.ofBytes? bytes
    let entries ← file.records 1
    return entries.filterMap fun entry => file.table? entry.2

end Horoscope
