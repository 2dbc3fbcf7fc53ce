import UnitCache.Warning

namespace UnitCache

inductive TypeKind where
  | classType
  deriving DecidableEq, Inhabited, Repr

def TypeKind.name : TypeKind → String
  | .classType => "Class"

structure TypeInfo where
  name : String
  kind : TypeKind
  deriving DecidableEq, Inhabited, Repr

structure Variable where
  name : String := ""
  typeName : String := ""
  deriving DecidableEq, Inhabited, Repr

structure Method where
  name : String := ""
  returns : List Variable := []
  parameters : List Variable := []
  deriving DecidableEq, Inhabited, Repr

structure CompletionResult where
  types : List TypeInfo := []
  methods : List Method := []
  deriving DecidableEq, Inhabited, Repr

def CompletionResult.isEmpty (result : CompletionResult) : Bool := result.types.isEmpty && result.methods.isEmpty

namespace Method

structure Draft where
  method : Method := {}
  /-- Whether the parameters were begun; what is typed behind that is no part of the name. -/
  inParameters : Bool := false
  warnings : List Warning := []
  deriving DecidableEq, Inhabited, Repr

def Draft.add (draft : Draft) (chunk : Chunk) : Draft :=
  let method := draft.method
  match chunk.kind with
  | .resultType => { draft with method := { method with returns := method.returns ++ [{ name := chunk.text }] } }
  | .placeholder =>
    let parameter : Variable := ⟨s!"arg{method.parameters.length}", chunk.text⟩
    { draft with method := { method with parameters := method.parameters ++ [parameter] } }
  | .leftParen => { draft with inParameters := true }
  | .rightParen | .comma => draft
  | .typedText =>
    if draft.inParameters then draft else { draft with method := { method with name := method.name ++ chunk.text } }
  | kind => { draft with warnings := draft.warnings ++ [.skippedChunk kind] }

def ofChunks (chunks : List Chunk) : Method × List Warning :=
  let draft := chunks.foldl Draft.add {}
  (draft.method, draft.warnings)

end Method

namespace CompletionResult

def add (state : CompletionResult × List Warning) (candidate : Candidate) : CompletionResult × List Warning :=
  let (result, warnings) := state
  match candidate.cursorKind with
  | .structDecl | .typedefDecl =>
    let name := String.join (candidate.chunks.map Chunk.text)
    ({ result with types := result.types ++ [⟨name, .classType⟩] }, warnings)
  | .functionDecl =>
    let (method, skipped) := Method.ofChunks candidate.chunks
    ({ result with methods := result.methods ++ [method] }, warnings ++ skipped)
  | kind => (result, warnings ++ [.skippedCandidate kind])

def ofCandidates (candidates : List Candidate) : CompletionResult × List Warning := candidates.foldl add ({}, [])

end CompletionResult

end UnitCache
