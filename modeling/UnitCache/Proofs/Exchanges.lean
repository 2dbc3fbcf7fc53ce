import UnitCache.Codec.Completion
import UnitCache.Codec.Diagnostic
import UnitCache.Proofs.Flags
import UnitCache.Proofs.Spellings

namespace UnitCache

open Json

section Questions

@[simp] theorem Location.ofJson?_toJson (location : Location) : ofJson? location.toJson = some location := by
  simp [ofJson?, toJson, fields?_ofMembers, Field.required]

@[simp] theorem SourceFile.ofJson?_toJson (file : SourceFile) : ofJson? file.toJson = some file := by
  simp [ofJson?, toJson, fields?_ofMembers, Field.required, Field.orDefault]

@[simp] theorem Cursor.ofJson?_toJson (cursor : Cursor) : ofJson? cursor.toJson = some cursor := by
  simp [ofJson?, toJson, fields?_ofMembers, Field.required]

@[simp] theorem CompletionQuery.ofJson?_toJson (query : CompletionQuery) : ofJson? query.toJson = some query := by
  simp [ofJson?, toJson, fields?_ofMembers, Field.required]

end Questions

section Diagnostics

@[simp] theorem ParseFlags.ofJson?_toJson (flags : ParseFlags) : ofJson? flags.toJson = some flags := by
  simp [ofJson?, toJson, ofText?_text]

@[simp] theorem Severity.ofJson?_toJson (severity : Severity) : ofJson? severity.toJson = some severity := by
  cases severity <;> rfl

@[simp] theorem Diagnostic.ofJson?_toJson (diagnostic : Diagnostic) : ofJson? diagnostic.toJson = some diagnostic := by
  have location := optional_ofOption Location.ofJson?_toJson rfl diagnostic.location
  simp [ofJson?, toJson, fields?_ofMembers, Field.required, location]

end Diagnostics

section Candidates

@[simp] theorem CursorKind.ofJson?_toJson (kind : CursorKind) : ofJson? kind.toJson = some kind := by
  cases kind <;> rfl

@[simp] theorem ChunkKind.ofJson?_toJson (kind : ChunkKind) : ofJson? kind.toJson = some kind := by
  cases kind <;> rfl

@[simp] theorem Chunk.ofJson?_toJson (chunk : Chunk) : ofJson? chunk.toJson = some chunk := by
  simp [ofJson?, toJson, fields?_ofMembers, Field.required]

@[simp] theorem Candidate.ofJson?_toJson (candidate : Candidate) : ofJson? candidate.toJson = some candidate := by
  have chunks := list?_ofList Chunk.ofJson?_toJson candidate.chunks
  simp [ofJson?, toJson, fields?_ofMembers, Field.required, chunks]

end Candidates

section Completions

@[simp] theorem TypeInfo.kind?_name (kind : TypeKind) : kind? (.ofString kind.name) = some kind := by
  cases kind
  rfl

@[simp] theorem TypeInfo.ofJson?_toJson (info : TypeInfo) : ofJson? info.toJson = some info := by
  simp [ofJson?, toJson, fields?_ofMembers, Field.required]

@[simp] theorem Variable.ofJson?_toJson (entry : Variable) : ofJson? entry.toJson = some entry := by
  simp [ofJson?, toJson, fields?_ofMembers, Field.required]

@[simp] theorem Method.ofJson?_toJson (method : Method) : ofJson? method.toJson = some method := by
  have returns := list?_ofList Variable.ofJson?_toJson method.returns
  have parameters := list?_ofList Variable.ofJson?_toJson method.parameters
  simp [ofJson?, toJson, fields?_ofMembers, Field.required, returns, parameters]

@[simp] theorem CompletionResult.ofJson?_toJson (result : CompletionResult) : ofJson? result.toJson = some result := by
  have types := list?_ofList TypeInfo.ofJson?_toJson result.types
  have methods := list?_ofList Method.ofJson?_toJson result.methods
  simp [ofJson?, toJson, fields?_ofMembers, Field.required, types, methods]

end Completions

section Texts

variable {α : Type} {encode : α → Json} {decode : Json → Option α}

/-- Values survive an exchange if each is read as it was written, however it is spelled, and different ones are written
differently. -/
structure Survives (encode : α → Json) (decode : Json → Option α) : Prop where
  read : ∀ value text, IsText (encode value) text → (parse? text).bind decode = some value
  compact : ∀ value, (parse? (encode value).compact).bind decode = some value
  pretty : ∀ value, (parse? (encode value).pretty).bind decode = some value
  /-- Not even the texts of different values are the same. -/
  apart : ∀ left right, left ≠ right →
    (encode left).compact ≠ (encode right).compact ∧ (encode left).pretty ≠ (encode right).pretty

theorem survives_of_reads (reads : ∀ value, decode (encode value) = some value) : Survives encode decode := by
  have read (value : α) (text : String) (spelled : IsText (encode value) text) :
      (parse? text).bind decode = some value := by
    rw [parse?_of_isText spelled]
    exact reads value
  have compact (value : α) := read value _ (isText_compact (encode value))
  have pretty (value : α) := read value _ (isText_pretty (encode value))
  refine ⟨read, compact, pretty, fun left right other => ⟨fun same => other ?_, fun same => other ?_⟩⟩
  · exact Option.some.inj ((compact left).symm.trans (same ▸ compact right))
  · exact Option.some.inj ((pretty left).symm.trans (same ▸ pretty right))

/-- Whatever is exchanged survives, with any texts and numbers in it. -/
theorem exchanged_values_survive :
    Survives Location.toJson Location.ofJson? ∧ Survives SourceFile.toJson SourceFile.ofJson? ∧
      Survives Cursor.toJson Cursor.ofJson? ∧ Survives CompletionQuery.toJson CompletionQuery.ofJson? ∧
      Survives Diagnostic.toJson Diagnostic.ofJson? ∧ Survives Candidate.toJson Candidate.ofJson? ∧
      Survives CompletionResult.toJson CompletionResult.ofJson? ∧ Survives ParseFlags.toJson ParseFlags.ofJson? :=
  ⟨survives_of_reads Location.ofJson?_toJson, survives_of_reads SourceFile.ofJson?_toJson,
    survives_of_reads Cursor.ofJson?_toJson, survives_of_reads CompletionQuery.ofJson?_toJson,
    survives_of_reads Diagnostic.ofJson?_toJson, survives_of_reads Candidate.ofJson?_toJson,
    survives_of_reads CompletionResult.ofJson?_toJson, survives_of_reads ParseFlags.ofJson?_toJson⟩

end Texts

end UnitCache
