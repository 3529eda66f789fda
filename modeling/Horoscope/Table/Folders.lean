import Horoscope.Table.Basic
import Horoscope.Table.Location
import Horoscope.Table.Path

set_option autoImplicit false

namespace Horoscope

structure Folders where
  entries : List (List Bytes × Option Database)
  home : List Bytes

inductive Lead
  | nowhere
  | obstacle
  | folder
  | file (database : Database)

namespace Folders

def maxName : Nat := 255

def follow (f : Folders) : List Bytes → List Bytes → Lead
  | _, [] => .folder
  | place, name :: rest =>
    if maxName < name.length then .obstacle
    else if Path.stays name then f.follow place rest
    else if Path.goesBack name then f.follow place.dropLast rest
    else
      match f.entries.lookup (place ++ [name]) with
      | none => .nowhere
      | some none => f.follow (place ++ [name]) rest
      | some (some database) => if rest.isEmpty then .file database else .obstacle

def lead (f : Folders) (path : Bytes) : Lead :=
  if path.isEmpty then .nowhere else f.follow (Path.start f.home path) (Path.names path)

def holds (f : Folders) (path : Bytes) : Bool :=
  match f.lead path with
  | .folder | .file _ => true
  | .nowhere | .obstacle => false

def isFolder (f : Folders) (way : List Bytes) : Bool :=
  match f.follow [] way with
  | .folder => true
  | _ => false

-- The path as it is written may lead nowhere, but over no obstacle.
def isClear (f : Folders) (path : Bytes) : Bool :=
  match f.lead path with
  | .obstacle => false
  | _ => Path.fits f.home path

def open? (f : Folders) (request : FileRequest) : Option Database :=
  if f.isClear request.path && request.model.all f.holds then
    let path := Path.ofBytes f.home request.path
    match f.lead path.bytes with
    | .file database => some database
    | .nowhere => if f.isFolder path.folders && !request.mustExist then some [] else none
    | .folder | .obstacle => none
  else none

end Folders
end Horoscope
