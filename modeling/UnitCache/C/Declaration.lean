import UnitCache.Diagnostic
import UnitCache.Completion.Candidate
import UnitCache.Syntax.Node
/-!
The declarations of a C source that other code can name, read off its syntax tree: functions, structures and type
names at file scope, each once. Beside them, the errors of the tree.
-/
namespace UnitCache.C

open UnitCache.Syntax

structure Parameter where
  name : String
  typeName : String
  deriving DecidableEq, Inhabited, Repr

def Parameter.text (parameter : Parameter) : String :=
  if parameter.name.isEmpty then parameter.typeName else parameter.typeName ++ " " ++ parameter.name

inductive DeclarationKind where
  | function (returnType : String) (parameters : List Parameter)
  | struct
  | typedef
  deriving DecidableEq, Inhabited, Repr

def DeclarationKind.sameSort : DeclarationKind → DeclarationKind → Bool
  | .function .., .function .. => true
  | .struct, .struct => true
  | .typedef, .typedef => true
  | _, _ => false

structure Declaration where
  name : String
  kind : DeclarationKind
  location : Location
  deriving DecidableEq, Inhabited, Repr

namespace Declaration

def declaresSame (first second : Declaration) : Bool :=
  first.name == second.name && first.kind.sameSort second.kind

/-- Keeps the first declaration of each thing. `seen` are those already kept, the last one first. -/
def firstsFrom (seen : List Declaration) : List Declaration → List Declaration
  | [] => seen.reverse
  | declaration :: rest =>
    if seen.any (declaresSame declaration) then firstsFrom seen rest else firstsFrom (declaration :: seen) rest

def firsts (declarations : List Declaration) : List Declaration := firstsFrom [] declarations

def parameterChunks (parameters : List Parameter) : List Chunk :=
  (parameters.map fun parameter => (⟨.placeholder, parameter.text⟩ : Chunk)).intersperse ⟨.comma, ", "⟩

def toCandidate (declaration : Declaration) : Candidate :=
  match declaration.kind with
  | .function returnType parameters =>
    { cursorKind := .functionDecl
      chunks := [⟨.resultType, returnType⟩, ⟨.typedText, declaration.name⟩, ⟨.leftParen, "("⟩]
        ++ parameterChunks parameters ++ [⟨.rightParen, ")"⟩] }
  | .struct => { cursorKind := .structDecl, chunks := [⟨.typedText, declaration.name⟩] }
  | .typedef => { cursorKind := .typedefDecl, chunks := [⟨.typedText, declaration.name⟩] }

end Declaration

/-- A source whose tree is read, under the name that places are given with. -/
structure Outline where
  source : Source
  file : String

namespace Outline

def text (outline : Outline) (node : Node) : String := outline.source.slice node.info.start node.info.stop

def location (outline : Outline) (node : Node) : Location :=
  ⟨outline.file, UInt32.ofNat node.info.point.row + 1, UInt32.ofNat node.info.point.column + 1⟩

def textOf (outline : Outline) (node : Node) (field : String) : String :=
  ((node.child? field).map outline.text).getD ""

def pointerTo (typeName : String) (pointers : Nat) : String :=
  typeName ++ String.ofList (List.replicate pointers '*')

/-- Takes the pointers off a declarator; gives their number and what is pointed to, if that is written. -/
def dereference (node : Node) : Nat × Option Node :=
  if node.kind == "pointer_declarator" then
    match _ : node.child? "declarator" with
    | none => (1, none)
    | some inner =>
      let (pointers, target) := dereference inner
      (pointers + 1, target)
  else (0, some node)
termination_by sizeOf node
decreasing_by exact Node.sizeOf_lt_of_child? ‹_›

/-- Takes the pointers off the declarator of a parameter, which may name nothing; gives their number and what is
left, which is a pointer if nothing is written behind it. -/
def dereferenceParameter (node : Node) : Nat × Node :=
  if node.kind == "pointer_declarator" || node.kind == "abstract_pointer_declarator" then
    match _ : node.child? "declarator" with
    | none => (1, node)
    | some inner =>
      let (pointers, target) := dereferenceParameter inner
      (pointers + 1, target)
  else (0, node)
termination_by sizeOf node
decreasing_by exact Node.sizeOf_lt_of_child? ‹_›

def isName (node : Node) : Bool := ["identifier", "type_identifier", "field_identifier"].contains node.kind

def declaredName? (outline : Outline) (node : Node) : Option String :=
  if isName node then some (outline.text node)
  else
    match _ : node.child? "declarator" with
    | none => none
    | some inner => declaredName? outline inner
termination_by sizeOf node
decreasing_by exact Node.sizeOf_lt_of_child? ‹_›

def parameter? (outline : Outline) (node : Node) : Option Parameter :=
  if node.kind == "parameter_declaration" then
    let typeName := outline.textOf node "type"
    match node.child? "declarator" with
    | none => if typeName == "void" then none else some ⟨"", typeName⟩
    | some declarator =>
      let (pointers, target) := dereferenceParameter declarator
      some ⟨(outline.declaredName? target).getD "", pointerTo typeName pointers⟩
  else none

def parameters (outline : Outline) (list : Node) : List Parameter := list.children.filterMap outline.parameter?

/-- The function that a declaration or definition declares first, if it is one. A pointer to a function is not. -/
def function? (outline : Outline) (node : Node) : Option Declaration := do
  let declarator ← node.child? "declarator"
  let (pointers, target) := dereference declarator
  let function ← target
  guard (function.kind == "function_declarator")
  let name ← function.child? "declarator"
  guard (name.kind == "identifier")
  some {
    name := outline.text name
    kind := .function (pointerTo (outline.textOf node "type") pointers)
      (((function.child? "parameters").map outline.parameters).getD [])
    location := outline.location node }

def declared (outline : Outline) (node : Node) : Option Declaration :=
  if node.kind == "function_definition" || node.kind == "declaration" then outline.function? node
  else if node.kind == "struct_specifier" then
    (node.child? "name").map fun name => ⟨outline.text name, .struct, outline.location node⟩
  else if node.kind == "type_definition" then
    ((node.child? "declarator").bind outline.declaredName?).map fun name =>
      ⟨name, .typedef, outline.location node⟩
  else none

def isBlock (node : Node) : Bool := node.kind == "compound_statement"

mutual

def declarationsIn (outline : Outline) : Node → List Declaration
  | .mk info children =>
    if isBlock (.mk info children) then []
    else (outline.declared (.mk info children)).toList ++ declarationsAmong outline children

def declarationsAmong (outline : Outline) : List Node → List Declaration
  | [] => []
  | node :: rest => declarationsIn outline node ++ declarationsAmong outline rest

end

def declarations (outline : Outline) (root : Node) : List Declaration :=
  Declaration.firsts (outline.declarationsIn root)

def syntaxError (outline : Outline) (node : Node) : Diagnostic :=
  { severity := .error
    location := some (outline.location node)
    message := if node.info.isMissing then "missing " ++ node.kind else "syntax error" }

mutual

def errorsIn (outline : Outline) : Node → List Diagnostic
  | .mk info children =>
    if info.isError || info.isMissing then [outline.syntaxError (.mk info children)]
    else errorsAmong outline children

def errorsAmong (outline : Outline) : List Node → List Diagnostic
  | [] => []
  | node :: rest =>
    if node.info.hasError || node.info.isMissing then errorsIn outline node ++ errorsAmong outline rest
    else errorsAmong outline rest

end

def syntaxErrors (outline : Outline) (root : Node) : List Diagnostic :=
  if root.info.hasError then outline.errorsIn root else []

end Outline

end UnitCache.C
