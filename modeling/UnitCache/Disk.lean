import UnitCache.Error
import UnitCache.Text.Utf8
/-!
Files as a program sees them: what lies at which place below the working directory. A path is followed from there
part by part, so each part but the last must be a directory that exists.
-/
namespace UnitCache

inductive Content where
  | text (text : String)
  | bytes (bytes : List UInt8)
  deriving DecidableEq, Inhabited, Repr

def Content.text? : Content → Option String
  | .text content => some content
  | .bytes content => Text.decode? content

def Content.lossyText : Content → String
  | .text content => content
  | .bytes content => Text.decodeLossy content

inductive Entry where
  | file (content : Content)
  | directory
  | program
  deriving DecidableEq, Inhabited, Repr

/-- A place: the names that lead to it from the working directory, or from the root, which has a name of its own. -/
abbrev Place := List String

def rootPlace : Place := ["/"]

def isUnder (upper place : Place) : Bool :=
  upper.isPrefixOf place && (upper.head? == some "/") == (place.head? == some "/")

/-- The place that two dots lead to; nothing is known above the working directory. -/
def parentPlace? (place : Place) : Option Place :=
  if place.isEmpty then none else if place == rootPlace then some place else some place.dropLast

structure Disk where
  entries : List (Place × Entry) := []
  deriving DecidableEq, Inhabited, Repr

namespace Disk

/-- What lies at a place; what holds something is a directory. -/
def at? (disk : Disk) (place : Place) : Option Entry :=
  match disk.entries.find? fun entry => entry.1 == place with
  | some (_, entry) => some entry
  | none =>
    if place.isEmpty || place == rootPlace || disk.entries.any (fun entry => isUnder place entry.1) then
      some .directory
    else none

def follow (disk : Disk) (place : Place) : List String → Except FileFailure Place
  | [] => .ok place
  | part :: rest =>
    match disk.at? place with
    | none => .error .notFound
    | some .directory =>
      if part == "" || part == "." then follow disk place rest
      else if part == ".." then
        match parentPlace? place with
        | some parent => follow disk parent rest
        | none => .error .notFound
      else follow disk (place ++ [part]) rest
    | some _ => .error .notDirectory

def locate (disk : Disk) (path : Path) : Except FileFailure (Place × Entry) :=
  if path.text.any (· == '\x00') then .error .badName
  else if path.text.isEmpty then .error .notFound
  else
    match disk.follow (if path.text.startsWith "/" then rootPlace else []) path.parts with
    | .error failure => .error failure
    | .ok place =>
      match disk.at? place with
      | none => .error .notFound
      | some entry => .ok (place, entry)

def exists? (disk : Disk) (path : Path) : Bool :=
  match disk.locate path with
  | .ok _ => true
  | .error _ => false

def read (disk : Disk) (path : Path) : Except FileFailure String :=
  match disk.locate path with
  | .error failure => .error failure
  | .ok (_, .directory) => .error .isDirectory
  | .ok (_, .program) => .error .notText
  | .ok (_, .file content) =>
    match content.text? with
    | some text => .ok text
    | none => .error .notText

/-- The place that a path names if nothing is in its way. -/
def placeOf (path : Path) : Place :=
  path.components.foldl (fun place component =>
    match component with
    | .root => rootPlace
    | .here => place
    | .parent => (parentPlace? place).getD []
    | .name text => place ++ [text]) []

def put (disk : Disk) (path : Path) (entry : Entry) : Disk :=
  let place := placeOf path
  ⟨disk.entries.filter (fun other => other.1 != place) ++ [(place, entry)]⟩

/-- Takes away what lies at a path. The directory that it lay in stays. -/
def remove (disk : Disk) (path : Path) : Disk :=
  let place := placeOf path
  let rest := disk.entries.filter fun other => other.1 != place
  let parent := place.dropLast
  if parent.isEmpty || rest.any (fun other => isUnder parent other.1) then ⟨rest⟩
  else ⟨rest ++ [(parent, .directory)]⟩

def pathUnder (directory : Path) (place : Place) (entry : Place × Entry) : Option Path :=
  match entry.2 with
  | .directory => none
  | _ =>
    if isUnder place entry.1 then some ((entry.1.drop place.length).foldl Path.join directory) else none

def filesUnder (disk : Disk) (path : Path) : List Path :=
  match disk.locate path with
  | .error _ => []
  | .ok (place, _) =>
    (disk.entries.filterMap (pathUnder path place)).mergeSort fun left right => decide (left.text ≤ right.text)

end Disk

end UnitCache
