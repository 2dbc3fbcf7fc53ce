import UnitCache.Completion.Result
import UnitCache.Json.Fields

namespace UnitCache

namespace CursorKind

def toJson (kind : CursorKind) : Json := .ofString kind.name

def ofJson? (value : Json) : Option CursorKind := value.name?.bind fun name => all.find? (·.name == name)

end CursorKind

namespace ChunkKind

def toJson (kind : ChunkKind) : Json := .ofString kind.name

def ofJson? (value : Json) : Option ChunkKind := value.name?.bind fun name => all.find? (·.name == name)

end ChunkKind

namespace Chunk

def toJson (chunk : Chunk) : Json := .ofMembers [("kind", chunk.kind.toJson), ("text", .ofString chunk.text)]

def ofJson? (value : Json) : Option Chunk := do
  match ← value.fields? ["kind", "text"] with
  | [kind, text] => some ⟨← kind.required ChunkKind.ofJson?, ← text.required Json.text?⟩
  | _ => none

end Chunk

namespace Candidate

def toJson (candidate : Candidate) : Json :=
  .ofMembers [("cursor_kind", candidate.cursorKind.toJson), ("chunks", .ofList Chunk.toJson candidate.chunks)]

def ofJson? (value : Json) : Option Candidate := do
  match ← value.fields? ["cursor_kind", "chunks"] with
  | [kind, chunks] => some ⟨← kind.required CursorKind.ofJson?, ← chunks.required (Json.list? Chunk.ofJson?)⟩
  | _ => none

end Candidate

namespace TypeInfo

def toJson (info : TypeInfo) : Json :=
  .ofMembers [("name", .ofString info.name), ("kind", .ofString info.kind.name)]

def kind? (value : Json) : Option TypeKind :=
  value.name?.bind fun name => if name == TypeKind.classType.name then some .classType else none

def ofJson? (value : Json) : Option TypeInfo := do
  match ← value.fields? ["name", "kind"] with
  | [name, kind] => some ⟨← name.required Json.text?, ← kind.required kind?⟩
  | _ => none

end TypeInfo

namespace Variable

def toJson (entry : Variable) : Json :=
  .ofMembers [("name", .ofString entry.name), ("type_name", .ofString entry.typeName)]

def ofJson? (value : Json) : Option Variable := do
  match ← value.fields? ["name", "type_name"] with
  | [name, typeName] => some ⟨← name.required Json.text?, ← typeName.required Json.text?⟩
  | _ => none

end Variable

namespace Method

def toJson (method : Method) : Json :=
  .ofMembers [("name", .ofString method.name), ("returns", .ofList Variable.toJson method.returns),
    ("parameters", .ofList Variable.toJson method.parameters)]

def ofJson? (value : Json) : Option Method := do
  match ← value.fields? ["name", "returns", "parameters"] with
  | [name, returns, parameters] =>
    some ⟨← name.required Json.text?, ← returns.required (Json.list? Variable.ofJson?),
      ← parameters.required (Json.list? Variable.ofJson?)⟩
  | _ => none

end Method

namespace CompletionResult

def toJson (result : CompletionResult) : Json :=
  .ofMembers [("types", .ofList TypeInfo.toJson result.types), ("methods", .ofList Method.toJson result.methods)]

def ofJson? (value : Json) : Option CompletionResult := do
  match ← value.fields? ["types", "methods"] with
  | [types, methods] =>
    some ⟨← types.required (Json.list? TypeInfo.ofJson?), ← methods.required (Json.list? Method.ofJson?)⟩
  | _ => none

end CompletionResult

end UnitCache
