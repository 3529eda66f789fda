import Horoscope.Text.Basic

set_option autoImplicit false

namespace Horoscope

structure Path where
  folders : List Bytes
  name : Bytes

namespace Path

def names (path : Bytes) : List Bytes := path.splitOn '/'.toUInt8

def start (home : List Bytes) (path : Bytes) : List Bytes :=
  if path.head? = some '/'.toUInt8 then [] else home

def stays (name : Bytes) : Bool := name.isEmpty || name == Bytes.ofString "."

def goesBack (name : Bytes) : Bool := name == Bytes.ofString ".."

def step (way : List Bytes) (name : Bytes) : List Bytes :=
  if stays name then way else if goesBack name then way.dropLast else way ++ [name]

def ofBytes (home : List Bytes) (path : Bytes) : Path :=
  ⟨(names path).dropLast.foldl step (start home path), (names path).getLast?.getD []⟩

def wayBytes (way : List Bytes) : Bytes := way.flatMap fun name => '/'.toUInt8 :: name

def bytes (p : Path) : Bytes := wayBytes p.folders ++ '/'.toUInt8 :: p.name

def maxBytes : Nat := 512

-- A path fits as it is written, and once simplified leaves room for the names beside it.
def fits (home : List Bytes) (path : Bytes) : Bool :=
  decide ((wayBytes (start home path)).length + path.length < maxBytes) &&
    decide ((ofBytes home path).bytes.length + 8 ≤ maxBytes)

end Path
end Horoscope
