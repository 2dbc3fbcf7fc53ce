/-!
Paths of files. A path is printed as it was spelled; two spellings are the same path if they have the same
components, whatever empty parts and dots stand between these.
-/
namespace UnitCache

inductive Component where
  | root
  | here
  | parent
  | name (text : String)
  deriving DecidableEq, Inhabited, Repr

structure Path where
  text : String
  deriving DecidableEq, Inhabited, Repr

namespace Path

/-- Cuts a text at each separator. `current` is what was read of the part at hand, the last character first. -/
def cutFrom (current : List Char) : List Char → List String
  | [] => [String.ofList current.reverse]
  | c :: rest =>
    if c == '/' then String.ofList current.reverse :: cutFrom [] rest else cutFrom (c :: current) rest

def parts (path : Path) : List String := cutFrom [] path.text.toList

def innerComponents (parts : List String) : List Component :=
  parts.filterMap fun part =>
    if part == "" || part == "." then none
    else if part == ".." then some .parent
    else some (.name part)

def components (path : Path) : List Component :=
  match path.parts with
  | [] => []
  | first :: rest =>
    if first == "" then
      if rest.isEmpty then [] else .root :: innerComponents rest
    else if first == "." then .here :: innerComponents rest
    else innerComponents (first :: rest)

instance : BEq Path := ⟨fun left right => left.components == right.components⟩

theorem beq_iff {left right : Path} : (left == right) = true ↔ left.components = right.components :=
  @beq_iff_eq (List Component) _ _ left.components right.components

instance : EquivBEq Path where
  rfl := beq_iff.mpr rfl
  symm same := beq_iff.mpr (beq_iff.mp same).symm
  trans first second := beq_iff.mpr ((beq_iff.mp first).trans (beq_iff.mp second))

def fileName? (path : Path) : Option String :=
  match path.components.getLast? with
  | some (.name text) => some text
  | _ => none

def extension? (path : Path) : Option String := do
  let name ← path.fileName?
  let behind := name.toList.reverse.takeWhile (· != '.')
  let before := name.toList.reverse.drop (behind.length + 1)
  if before.isEmpty then none else some (String.ofList behind.reverse)

def join (directory : Path) (name : String) : Path :=
  if directory.text.isEmpty then ⟨name⟩
  else if directory.text.endsWith "/" then ⟨directory.text ++ name⟩
  else ⟨directory.text ++ "/" ++ name⟩

end Path

end UnitCache
