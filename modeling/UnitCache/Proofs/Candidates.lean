import Mathlib.Data.List.Basic
import UnitCache.Completion.Result
/-!
What becomes of candidates. Each gives a type, a callable or a warning, in the order in which they come; of the chunks
of a callable each gives a part of it, a warning or, as a parenthesis or a comma, nothing. Nothing is lost, made up or
moved.
-/
namespace UnitCache

def CursorKind.isType (kind : CursorKind) : Bool := kind = .structDecl ∨ kind = .typedefDecl

def CursorKind.isCallable (kind : CursorKind) : Bool := kind = .functionDecl

def CursorKind.isSkipped (kind : CursorKind) : Bool := kind ∉ [.structDecl, .typedefDecl, .functionDecl]

def ChunkKind.isSkipped (kind : ChunkKind) : Bool := kind ∈ [.text, .informative, .optional]

namespace Chunk

def texts (kind : ChunkKind) (chunks : List Chunk) : List String :=
  (chunks.filter fun chunk => chunk.kind = kind).map Chunk.text

def beforeParameters (chunks : List Chunk) : List Chunk := chunks.takeWhile fun chunk => chunk.kind ≠ .leftParen

def warnings (chunks : List Chunk) : List Warning :=
  (chunks.filter fun chunk => chunk.kind.isSkipped).map fun chunk => .skippedChunk chunk.kind

end Chunk

def Variable.numbered (first : Nat) (types : List String) : List Variable :=
  types.mapIdx fun index type => { name := "arg" ++ toString (first + index), typeName := type }

def Method.described (chunks : List Chunk) : Method where
  name := String.join (Chunk.texts .typedText (Chunk.beforeParameters chunks))
  returns := (Chunk.texts .resultType chunks).map fun text => { name := text, typeName := "" }
  parameters := Variable.numbered 0 (Chunk.texts .placeholder chunks)

/-- The warnings about a candidate: one if it is left out, and one for each chunk that is left out of a callable. -/
def Candidate.warnings (candidate : Candidate) : List Warning :=
  if candidate.cursorKind.isSkipped then [.skippedCandidate candidate.cursorKind]
  else if candidate.cursorKind.isCallable then Chunk.warnings candidate.chunks
  else []

theorem Variable.numbered_cons (first : Nat) (type : String) (types : List String) :
    numbered first (type :: types) = ⟨"arg" ++ toString first, type⟩ :: numbered (first + 1) types := by
  simp [numbered, List.mapIdx_cons, Nat.add_assoc, Nat.add_comm 1]

namespace Method

theorem foldl_add (draft : Draft) (chunks : List Chunk) : chunks.foldl Draft.add draft =
    { method :=
        { name := draft.method.name ++ if draft.inParameters then "" else (described chunks).name
          returns := draft.method.returns ++ (described chunks).returns
          parameters := draft.method.parameters ++
            Variable.numbered draft.method.parameters.length (Chunk.texts .placeholder chunks) }
      inParameters := draft.inParameters || chunks.any fun chunk => chunk.kind = .leftParen
      warnings := draft.warnings ++ Chunk.warnings chunks } := by
  have numbered : toString "arg" = "arg" := rfl
  induction chunks generalizing draft with
  | nil => simp [described, Chunk.texts, Chunk.beforeParameters, Variable.numbered, Chunk.warnings]
  | cons chunk rest ih =>
    rw [List.foldl_cons, ih]
    obtain ⟨kind, text⟩ := chunk
    cases kind with
    | typedText =>
      cases begun : draft.inParameters with
      | true => simp [Draft.add, described, Chunk.texts, Chunk.warnings, ChunkKind.isSkipped, begun]
      | false =>
        simp [Draft.add, described, Chunk.texts, Chunk.beforeParameters, Chunk.warnings, ChunkKind.isSkipped, begun,
          String.append_assoc]
    | placeholder =>
      simp [Draft.add, described, Chunk.texts, Chunk.beforeParameters, Chunk.warnings, ChunkKind.isSkipped,
        Variable.numbered_cons, numbered]
    | leftParen =>
      simp [Draft.add, described, Chunk.texts, Chunk.beforeParameters, Chunk.warnings, ChunkKind.isSkipped]
    | resultType | rightParen | comma | text | informative | optional =>
      simp [Draft.add, described, Chunk.texts, Chunk.beforeParameters, Chunk.warnings, ChunkKind.isSkipped]

theorem ofChunks_eq (chunks : List Chunk) : ofChunks chunks = (described chunks, Chunk.warnings chunks) := by
  simp [ofChunks, foldl_add, described]

end Method

namespace CompletionResult

def typesOf (candidates : List Candidate) : List TypeInfo :=
  (candidates.filter fun candidate => candidate.cursorKind.isType).map fun candidate =>
    ⟨String.join (candidate.chunks.map Chunk.text), .classType⟩

def methodsOf (candidates : List Candidate) : List Method :=
  (candidates.filter fun candidate => candidate.cursorKind.isCallable).map fun candidate =>
    .described candidate.chunks

theorem add_eq (state : CompletionResult × List Warning) (candidate : Candidate) : add state candidate =
    (⟨state.1.types ++ typesOf [candidate], state.1.methods ++ methodsOf [candidate]⟩,
      state.2 ++ candidate.warnings) := by
  cases kind : candidate.cursorKind
  all_goals
    simp [add, typesOf, methodsOf, Candidate.warnings, Method.ofChunks_eq, kind, CursorKind.isType,
      CursorKind.isCallable, CursorKind.isSkipped]

theorem typesOf_append (first second : List Candidate) :
    typesOf (first ++ second) = typesOf first ++ typesOf second := by
  simp [typesOf]

theorem methodsOf_append (first second : List Candidate) :
    methodsOf (first ++ second) = methodsOf first ++ methodsOf second := by
  simp [methodsOf]

/-- Candidates that are gone through add what they are given out as to what is there already. -/
theorem foldl_add (state : CompletionResult × List Warning) (candidates : List Candidate) :
    candidates.foldl add state =
      (⟨state.1.types ++ typesOf candidates, state.1.methods ++ methodsOf candidates⟩,
        state.2 ++ candidates.flatMap Candidate.warnings) := by
  induction candidates generalizing state with
  | nil => simp [typesOf, methodsOf]
  | cons candidate rest ih =>
    have whole : candidate :: rest = [candidate] ++ rest := rfl
    rw [List.foldl_cons, ih, add_eq, whole, typesOf_append, methodsOf_append, List.flatMap_append]
    simp only [List.append_assoc, List.flatMap_singleton]

theorem ofCandidates_eq (candidates : List Candidate) : ofCandidates candidates =
    (⟨typesOf candidates, methodsOf candidates⟩, candidates.flatMap Candidate.warnings) := by
  rw [ofCandidates, foldl_add]
  rfl

/-- Each candidate is given out once or left out. -/
theorem length_given_out (candidates : List Candidate) :
    (typesOf candidates).length + (methodsOf candidates).length +
      (candidates.filter fun candidate => candidate.cursorKind.isSkipped).length = candidates.length := by
  have once (kind : CursorKind) :
      (kind.isType = true ∧ kind.isCallable = false ∧ kind.isSkipped = false) ∨
      (kind.isType = false ∧ kind.isCallable = true ∧ kind.isSkipped = false) ∨
      (kind.isType = false ∧ kind.isCallable = false ∧ kind.isSkipped = true) := by
    cases kind <;> decide
  rw [typesOf, methodsOf, List.length_map, List.length_map]
  induction candidates with
  | nil => rfl
  | cons candidate rest ih =>
    obtain ⟨type, callable, skipped⟩ | ⟨type, callable, skipped⟩ | ⟨type, callable, skipped⟩ :=
      once candidate.cursorKind
    all_goals
      simp only [List.filter_cons, type, callable, skipped, if_true, Bool.false_eq_true, if_false, List.length_cons]
      omega

/-- All that candidates offer is given out, in order. A structure or a type name is a type, named by all its chunks. A
function is a callable: its name is what is typed before the first parenthesis opens, its results are the texts of
result chunks, and its parameters are typed by the placeholders and numbered on. For every candidate of another kind
there is one warning, and one for each chunk that a callable leaves out. Every candidate is counted once, and what
comes later changes nothing of what came before. -/
theorem candidates_are_given_out (candidates : List Candidate) :
    (ofCandidates candidates).1.types = ((candidates.filter fun candidate =>
        candidate.cursorKind = .structDecl ∨ candidate.cursorKind = .typedefDecl).map fun candidate =>
      { name := String.join (candidate.chunks.map Chunk.text), kind := .classType }) ∧
    (ofCandidates candidates).1.methods = ((candidates.filter fun candidate =>
        candidate.cursorKind = .functionDecl).map fun candidate =>
      { name := String.join (Chunk.texts .typedText (candidate.chunks.takeWhile fun chunk => chunk.kind ≠ .leftParen))
        returns := (Chunk.texts .resultType candidate.chunks).map fun text => { name := text, typeName := "" }
        parameters := (Chunk.texts .placeholder candidate.chunks).mapIdx fun index text =>
          { name := "arg" ++ toString index, typeName := text } }) ∧
    (ofCandidates candidates).2 = (candidates.flatMap fun candidate =>
      if candidate.cursorKind.isSkipped then [.skippedCandidate candidate.cursorKind]
      else if candidate.cursorKind = .functionDecl then
        (candidate.chunks.filter fun chunk => chunk.kind.isSkipped).map fun chunk => .skippedChunk chunk.kind
      else []) ∧
    (ofCandidates candidates).1.types.length + (ofCandidates candidates).1.methods.length +
      (candidates.filter fun candidate => candidate.cursorKind.isSkipped).length = candidates.length ∧
    ∀ more, ofCandidates (candidates ++ more) =
      (⟨(ofCandidates candidates).1.types ++ (ofCandidates more).1.types,
          (ofCandidates candidates).1.methods ++ (ofCandidates more).1.methods⟩,
        (ofCandidates candidates).2 ++ (ofCandidates more).2) := by
  rw [ofCandidates_eq]
  refine ⟨rfl, ?_, ?_, length_given_out candidates, ?_⟩
  · simp only [methodsOf, CursorKind.isCallable, Method.described, Variable.numbered, Chunk.beforeParameters,
      Nat.zero_add]
  · apply List.flatMap_congr
    intro candidate listed
    simp only [Candidate.warnings, CursorKind.isCallable, decide_eq_true_eq, Chunk.warnings]
  · intro more
    rw [ofCandidates_eq, ofCandidates_eq, typesOf_append, methodsOf_append, List.flatMap_append]

end CompletionResult

end UnitCache
