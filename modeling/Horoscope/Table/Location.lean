import Horoscope.Text.Basic

set_option autoImplicit false

namespace Horoscope

inductive Access
  | readOnly
  | existing
  | creating
  | memory
deriving DecidableEq

structure FileRequest where
  path : Bytes
  mustExist : Bool
  model : Option Bytes
deriving DecidableEq

inductive Location
  | memory
  | file (request : FileRequest)
deriving DecidableEq

namespace Access

def all : List Access := [readOnly, existing, creating, memory]

def word : Access → Text
  | readOnly => "ro".toList
  | existing => "rw".toList
  | creating => "rwc".toList
  | memory => "memory".toList

def rank : Access → Nat
  | readOnly => 0
  | existing => 1
  | creating => 2
  | memory => 3

-- Access can be narrowed and not widened; memory is always allowed, and everything after it.
def allows (access next : Access) : Bool := next == memory || decide (next.rank ≤ access.rank)

end Access

namespace Location

def ofPath (path : Bytes) (access : Access) (model : Option Bytes) : Location :=
  if access = .memory ∨ path = [] ∨ path = Bytes.ofString ":memory:" then .memory
  else .file ⟨path, access != .creating, model⟩

def hexDigit? (c : Char) : Option Nat :=
  if c.isDigit then some (c.toNat - '0'.toNat)
  else if 'a' ≤ c ∧ c ≤ 'f' then some (c.toNat - 'a'.toNat + 10)
  else if 'A' ≤ c ∧ c ≤ 'F' then some (c.toNat - 'A'.toNat + 10)
  else none

def unescape : Text → Bytes
  | '%' :: high :: low :: rest =>
    match hexDigit? high, hexDigit? low with
    | some high, some low => (high * 16 + low).toUInt8 :: unescape rest
    | _, _ => String.utf8EncodeChar '%' ++ unescape (high :: low :: rest)
  | c :: rest => String.utf8EncodeChar c ++ unescape rest
  | [] => []

def part (text : Text) : Bytes := (unescape text).takeWhile (· != 0)

def settings (query : Text) : List (Bytes × Bytes) :=
  let read (item : Text) : Bytes × Bytes :=
    (part (item.takeWhile (· != '=')), part ((item.dropWhile (· != '=')).drop 1))
  ((query.splitOn '&').map read).filter fun setting => !setting.1.isEmpty

-- Access, the file to take permissions from, and the way in which files are kept and locked; of
-- those ways only the one that keeps them in memory makes a difference.
structure Settings where
  access : Access
  model : Option Bytes
  keeper : Bytes

def keepers : List Bytes :=
  ["unix", "unix-none", "unix-dotfile", "unix-excl", "memdb"].map Bytes.ofString

namespace Settings

def apply (s : Settings) (setting : Bytes × Bytes) : Option Settings :=
  let (name, value) := setting
  if name = Bytes.ofString "mode" then do
    let access ← Access.all.find? fun access => Text.bytes access.word == value
    if s.access.allows access then some { s with access := access } else none
  else if name = Bytes.ofString "cache" then
    if value = Bytes.ofString "shared" ∨ value = Bytes.ofString "private" then some s else none
  else if name = Bytes.ofString "vfs" then some { s with keeper := value }
  else if name = Bytes.ofString "modeof" then some { s with model := s.model <|> some value }
  else some s

def read? (query : Text) : Option Settings := do
  let s ← (settings query).foldlM apply ⟨.creating, none, Bytes.ofString "unix"⟩
  if s.keeper = Bytes.ofString "memdb" then some { s with access := .memory }
  else if keepers.contains s.keeper then some s
  else none

end Settings

def withoutHost? : Text → Option Text
  | '/' :: '/' :: rest =>
    let host := rest.takeWhile (· != '/')
    if host = [] ∨ host = "localhost".toList then some (rest.dropWhile (· != '/')) else none
  | address => some address

def ofAddress? (address : Text) : Option Location := do
  let whole := (← withoutHost? address).takeWhile (· != '#')
  let s ← Settings.read? ((whole.dropWhile (· != '?')).drop 1)
  return ofPath (part (whole.takeWhile (· != '?'))) s.access s.model

def ofName? (name : Text) : Option Location :=
  if "file:".toList.isPrefixOf name then ofAddress? (name.drop 5)
  else if name.contains '\x00' then none
  else some (ofPath (Text.bytes name) .creating none)

end Location
end Horoscope
