import UnitCache.C.Declaration
import UnitCache.C.Grammar
import UnitCache.Disk
import UnitCache.Syntax.Parser
import UnitCache.Text.Lines
/-!
Units of C sources that the program parses itself. A unit keeps the source it was made from, with the declarations
and errors found there, and completes a name from the declarations that start with what is typed before the cursor.
-/
namespace UnitCache.C

open UnitCache.Syntax

def automaton : Thunk Grammar.Automaton := Thunk.mk fun _ => Grammar.Automaton.ofLanguage grammar

/-- A parser finds the root of the syntax tree of a source, or gives up. -/
abbrev Parser := Source → Option Node

/-- The parser built into the program. -/
def parser : Parser := fun source =>
  (parse? automaton.get source).map fun tree => (Node.ofTree automaton.get source {} tree).headD default

/-- What a source is found to hold. -/
structure Contents where
  source : String
  declarations : List Declaration
  diagnostics : List Diagnostic
  deriving DecidableEq, Inhabited, Repr

def Contents.ofRoot (file : String) (text : String) (source : Source) (root : Node) : Contents :=
  let outline : Outline := ⟨source, file⟩
  ⟨text, outline.declarations root, outline.syntaxErrors root⟩

def Contents.ofText (parser : Parser) (path : Path) (text : String) : Except Error Contents :=
  let source := Source.ofString text
  match parser source with
  | none => .error (.gaveUp path)
  | some root => .ok (.ofRoot path.text text source root)

def Contents.load (parser : Parser) (disk : Disk) (path : Path) : Except Error Contents :=
  match disk.read path with
  | .error failure => .error (.file failure)
  | .ok text => Contents.ofText parser path text

structure TreeUnit where
  path : Path
  options : List String
  contents : Contents
  deriving DecidableEq, Inhabited, Repr

inductive TypedName where
  | found (name : List Char)
  | refused (error : Error)
  /-- The name cannot be cut out of the line, since the character before it takes more than one byte. -/
  | unsplittable
  deriving DecidableEq, Repr

def withinBytes (bytes : Nat) : List Char → List Char
  | [] => []
  | c :: rest => if c.utf8Size ≤ bytes then c :: withinBytes (bytes - c.utf8Size) rest else []

def isNameChar (c : Char) : Bool := c.isAlphanum || c == '_'

def nameAtEnd (text : List Char) : TypedName :=
  let backwards := text.reverse
  match backwards.dropWhile isNameChar with
  | [] => .found text
  | c :: _ => if c.utf8Size == 1 then .found (backwards.takeWhile isNameChar).reverse else .unsplittable

def typedName (source : String) (line column : UInt32) : TypedName :=
  if line == 0 || column == 0 then .refused (.badPosition line column)
  else
    match (Text.linesFrom [] source.toList)[line.toNat - 1]? with
    | none => .refused (.pastEnd line)
    | some text => nameAtEnd (withinBytes (column.toNat - 1) text)

inductive Completed where
  | candidates (candidates : List Candidate)
  | failed (error : Error)
  | panicked
  deriving DecidableEq, Repr

namespace TreeUnit

def build (disk : Disk) (path : Path) (options : List String) (parser : Parser := C.parser) : Except Error TreeUnit :=
  (Contents.load parser disk path).map fun contents => ⟨path, options, contents⟩

def reparse (disk : Disk) (unit : TreeUnit) (parser : Parser := C.parser) : Except Error TreeUnit :=
  (Contents.load parser disk unit.path).map fun contents => { unit with contents }

/-- The declarations whose names start with a text, by name; those of one name stay in order. -/
def declarationsStarting (unit : TreeUnit) (start : List Char) : List Declaration :=
  (unit.contents.declarations.filter fun declaration => start.isPrefixOf declaration.name.toList).mergeSort
    fun left right => decide (left.name ≤ right.name)

def complete (unit : TreeUnit) (path : Path) (line column : UInt32) : Completed :=
  if path == unit.path then
    match typedName unit.contents.source line column with
    | .found name => .candidates ((unit.declarationsStarting name).map Declaration.toCandidate)
    | .refused error => .failed error
    | .unsplittable => .panicked
  else .failed (.otherFile unit.path path)

end TreeUnit

end UnitCache.C
