import Horoscope.Table.Basic

set_option autoImplicit false

namespace Horoscope.Record

def bigEndian (bytes : Bytes) : Nat := bytes.foldl (fun n byte => n * 256 + byte.toNat) 0

def signed (bytes : Bytes) : Int :=
  let n := bigEndian bytes
  let values := 1 <<< (8 * bytes.length)
  if 2 * n < values then n else (n : Int) - values

-- Seven bits to a byte while its top bit is set, for `more` bytes; one after those counts in full.
def readVarint : Nat → Nat → Bytes → Option (Nat × Bytes)
  | _, _, [] => none
  | 0, n, byte :: rest => some (n * 256 + byte.toNat, rest)
  | more + 1, n, byte :: rest =>
    if byte.toNat < 128 then some (n * 128 + byte.toNat, rest)
    else readVarint more (n * 128 + (byte.toNat - 128)) rest

def varint (bytes : Bytes) : Option (Nat × Bytes) := readVarint 8 0 bytes

def signedVarint (n : Nat) : Int := if 2 * n < UInt64.size then n else (n : Int) - UInt64.size

def width : Nat → Nat
  | 0 | 8 | 9 | 10 | 11 => 0
  | 5 => 6
  | 6 | 7 => 8
  | kind => if kind < 5 then kind else (kind - 12) / 2

def cellOf (kind : Nat) (bytes : Bytes) : Cell :=
  match kind with
  | 0 | 10 | 11 => .null
  | 7 => .real (Float.ofBits (bigEndian bytes).toUInt64)
  | 8 => .integer 0
  | 9 => .integer 1
  | _ =>
    if kind < 7 then .integer (signed bytes)
    else if kind % 2 = 0 then .blob bytes
    else .encoded bytes

def readKinds : Nat → Bytes → Option (List Nat)
  | _, [] => some []
  | 0, _ :: _ => none
  | most + 1, header => do
    let (kind, rest) ← varint header
    return kind :: (← readKinds most rest)

def readCells : List Nat → Bytes → List Cell
  | [], _ => []
  | kind :: kinds, body => cellOf kind (body.take (width kind)) :: readCells kinds (body.drop (width kind))

def read (payload : Bytes) : Option (List Cell) := do
  let (length, rest) ← varint payload
  let header := rest.take (length - (payload.length - rest.length))
  let kinds ← readKinds header.length header
  return readCells kinds (payload.drop length)

end Horoscope.Record
