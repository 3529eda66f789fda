import Horoscope.Table.Record

set_option autoImplicit false

namespace Horoscope

open Record (bigEndian)

structure DatabaseFile where
  bytes : ByteArray
  pageSize : Nat
  usable : Nat

namespace DatabaseFile

def slice (bytes : ByteArray) (start length : Nat) : Bytes :=
  (bytes.extract start (start + length)).toList

def number (bytes : ByteArray) (start length : Nat) : Nat := bigEndian (slice bytes start length)

def signature : Bytes := Bytes.ofString "SQLite format 3\x00"

-- Only files in UTF-8 are read.
def ofBytes? (bytes : ByteArray) : Option DatabaseFile :=
  let size := number bytes 16 2
  let pageSize := if size = 1 then 65536 else size
  if slice bytes 0 16 = signature ∧ number bytes 56 4 ≤ 1 then
    some ⟨bytes, pageSize, pageSize - number bytes 20 1⟩
  else none

def page (file : DatabaseFile) (n : Nat) : ByteArray :=
  file.bytes.extract ((n - 1) * file.pageSize) (n * file.pageSize)

def pageCount (file : DatabaseFile) : Nat := file.bytes.size / file.pageSize + 1

def chain (file : DatabaseFile) : Nat → Nat → Nat → Option Bytes
  | _, _, 0 => some []
  | 0, _, _ + 1 => none
  | most + 1, n, wanted + 1 => do
    let page := file.page n
    let part := slice page 4 (min (wanted + 1) (file.usable - 4))
    return part ++ (← file.chain most (number page 0 4) (wanted + 1 - part.length))

def localLength (file : DatabaseFile) (length : Nat) : Nat :=
  let most := file.usable - 35
  let least := (file.usable - 12) * 32 / 255 - 23
  let fitting := least + (length - least) % (file.usable - 4)
  if length ≤ most then length else if fitting ≤ most then fitting else least

def row (file : DatabaseFile) (page : ByteArray) (offset : Nat) : Option (Int × Bytes) := do
  let bytes := slice page offset (page.size - offset)
  let (length, bytes) ← Record.varint bytes
  let (key, bytes) ← Record.varint bytes
  let here := file.localLength length
  let rest := if here < length then
      file.chain file.pageCount (bigEndian ((bytes.drop here).take 4)) (length - here)
    else some []
  return (Record.signedVarint key, bytes.take here ++ (← rest))

def rows (file : DatabaseFile) : Nat → Nat → Option (List (Int × Bytes))
  | 0, _ => none
  | depth + 1, n => do
    let page := file.page n
    let base := if n = 1 then 100 else 0
    let offsets (header : Nat) : List Nat :=
      (List.range (number page (base + 3) 2)).map fun i => number page (base + header + 2 * i) 2
    match number page base 1 with
    | 13 => (offsets 8).mapM (file.row page)
    | 5 =>
      let children := (offsets 12).map (fun offset => number page offset 4)
      return (← (children ++ [number page (base + 8) 4]).mapM (file.rows depth)).flatten
    | _ => none

def records (file : DatabaseFile) (root : Nat) : Option (List (Int × List Cell)) := do
  (← file.rows 32 root).mapM fun (key, payload) => return (key, ← Record.read payload)

end DatabaseFile
end Horoscope
