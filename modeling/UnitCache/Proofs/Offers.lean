import UnitCache.C.Declaration
import UnitCache.C.IdentifierChars
import UnitCache.Clang.CompletionLine
import UnitCache.Completion.Result
import UnitCache.Proofs.CompletionStrings
import UnitCache.Proofs.Lines

namespace UnitCache

/-- Code points of the characters of identifiers in C: letters, digits and marks of any script, the underscore, the
dollar sign, and the backslash of a character that is named by its number. -/
def identifierChars : List (Nat × Nat) :=
  (0x24, 0x24) :: (0x5C, 0x5C) :: (0x5F, 0x5F) :: (C.identifierStarts ++ C.identifierParts)

def IsIdentifier (name : String) : Prop := name ≠ "" ∧ ∀ c ∈ name.toList, Text.inRanges identifierChars c.toNat = true

def C.Parameter.shape (parameter : C.Parameter) : List Char := "<#".toList ++ parameter.text.toList ++ "#>".toList

namespace C.Declaration

def shape (declaration : Declaration) : List Char :=
  match declaration.kind with
  | .function returnType parameters =>
    "[#".toList ++ returnType.toList ++ "#]".toList ++ declaration.name.toList ++ "(".toList
      ++ List.intercalate ", ".toList (parameters.map Parameter.shape) ++ ")".toList
  | .struct | .typedef => declaration.name.toList

def completion (declaration : Declaration) : List Char :=
  "COMPLETION: ".toList ++ declaration.name.toList ++ " : ".toList ++ declaration.shape

def completions (declarations : List Declaration) : String :=
  String.ofList (declarations.flatMap fun declaration => declaration.completion ++ ['\n'])

/-- Whether the completion of a declaration can be told from what stands around it. -/
structure Printable (declaration : Declaration) : Prop where
  name : IsIdentifier declaration.name
  notPattern : declaration.name ≠ "Pattern"
  returns : ∀ returnType parameters, declaration.kind = .function returnType parameters →
    ¬"#]".toList <:+: returnType.toList ∧ '\n' ∉ returnType.toList
  parameters : ∀ returnType parameters, declaration.kind = .function returnType parameters →
    ∀ parameter ∈ parameters, ¬"#>".toList <:+: parameter.text.toList ∧ '\n' ∉ parameter.text.toList

def method? (declaration : Declaration) : Option Method :=
  match declaration.kind with
  | .function returnType parameters => some
    { name := declaration.name
      returns := [{ name := returnType }]
      parameters := parameters.mapIdx fun index parameter => ⟨"arg" ++ toString index, parameter.text⟩ }
  | .struct | .typedef => none

def type? (declaration : Declaration) : Option TypeInfo :=
  match declaration.kind with
  | .function .. => none
  | .struct | .typedef => some ⟨declaration.name, .classType⟩

end C.Declaration

section Identifiers

def disjoint (left right : List (Nat × Nat)) : Bool :=
  left.all fun first => right.all fun second => first.2.blt second.1 || second.2.blt first.1

theorem inRanges_of_disjoint {left right : List (Nat × Nat)} (apart : disjoint left right = true) {point : Nat}
    (inside : Text.inRanges left point = true) : Text.inRanges right point = false := by
  obtain ⟨first, known, here⟩ := List.any_eq_true.mp inside
  rw [Text.inRanges, List.any_eq_false]
  intro second also there
  have gap := List.all_eq_true.mp (List.all_eq_true.mp apart first known) second also
  simp only [decide_eq_true_eq, Bool.or_eq_true, Nat.blt_eq] at here there gap
  omega

/-- Code points of blanks, and of the characters that parts of a completion string start with. -/
def outsideNames : List (Nat × Nat) :=
  Text.blankRanges ++ [(0x28, 0x29), (0x2C, 0x2C), (0x3C, 0x3C), (0x5B, 0x5B), (0x7B, 0x7B)]

theorem outside_of_identifierChar {c : Char} (inside : Text.inRanges identifierChars c.toNat = true) :
    Text.inRanges outsideNames c.toNat = false := by
  have apart : disjoint identifierChars outsideNames = true := by decide +kernel
  exact inRanges_of_disjoint apart inside

theorem isBlank_of_outside {c : Char} (inside : Text.inRanges outsideNames c.toNat = false) :
    Text.isBlank c = false := by
  rw [outsideNames, Text.inRanges, List.any_append, Bool.or_eq_false_iff] at inside
  exact inside.1

variable {name : String}

theorem IsIdentifier.not_blank (identifier : IsIdentifier name) {c : Char} (inside : c ∈ name.toList) :
    Text.isBlank c = false :=
  isBlank_of_outside (outside_of_identifierChar (identifier.2 c inside))

theorem IsIdentifier.not_mem (identifier : IsIdentifier name) {c : Char}
    (other : Text.inRanges outsideNames c.toNat = true) : c ∉ name.toList := by
  intro inside
  rw [outside_of_identifierChar (identifier.2 c inside)] at other
  cases other

theorem IsIdentifier.proper (identifier : IsIdentifier name) : Clang.Proper ⟨.typedText, name⟩ := by
  refine ⟨identifier.1, fun separator known inside => ?_⟩
  obtain ⟨c, starts, other⟩ : ∃ c, c ∈ separator.toList ∧ Text.inRanges outsideNames c.toNat = true := by
    simp only [Clang.separators, List.mem_cons, List.not_mem_nil, or_false] at known
    rcases known with rfl | rfl | rfl | rfl | rfl | rfl
    · exact ⟨'[', by decide, by decide⟩
    · exact ⟨'<', by decide, by decide⟩
    · exact ⟨'\x7b', by decide, by decide⟩
    · exact ⟨',', by decide, by decide⟩
    · exact ⟨'(', by decide, by decide⟩
    · exact ⟨')', by decide, by decide⟩
  exact identifier.not_mem other (inside.subset starts)

end Identifiers

section Chunks

open C (Declaration Parameter)

variable {chunks more : List Chunk}

theorem canonical_append (canonical : Clang.Canonical chunks)
    (special : ∀ chunk ∈ more, Clang.Proper chunk ∧ Clang.isPlain chunk = false) : Clang.Canonical (chunks ++ more) := by
  induction more generalizing chunks with
  | nil => rwa [List.append_nil]
  | cons chunk more ih =>
    obtain ⟨proper, other⟩ := special chunk List.mem_cons_self
    have longer : Clang.Canonical (chunks ++ [chunk]) := canonical.concat proper (by simp [other])
    have whole := ih longer fun chunk inside => special chunk (List.mem_cons_of_mem _ inside)
    rwa [List.append_assoc] at whole

theorem parameterChunks_cons_cons (first second : Parameter) (rest : List Parameter) :
    Declaration.parameterChunks (first :: second :: rest) =
      ⟨.placeholder, first.text⟩ :: ⟨.comma, ", "⟩ :: Declaration.parameterChunks (second :: rest) := rfl

theorem of_mem_parameterChunks {parameters : List Parameter} {chunk : Chunk}
    (inside : chunk ∈ Declaration.parameterChunks parameters) :
    (∃ parameter ∈ parameters, chunk = ⟨.placeholder, parameter.text⟩) ∨ chunk = ⟨.comma, ", "⟩ := by
  induction parameters with
  | nil => cases inside
  | cons first rest ih =>
    cases rest with
    | nil => exact .inl ⟨first, List.mem_cons_self, List.mem_singleton.mp inside⟩
    | cons second rest =>
      rw [parameterChunks_cons_cons, List.mem_cons, List.mem_cons] at inside
      obtain rfl | rfl | inside := inside
      · exact .inl ⟨first, List.mem_cons_self, rfl⟩
      · exact .inr rfl
      · exact (ih inside).imp_left fun ⟨parameter, known, same⟩ => ⟨parameter, List.mem_cons_of_mem _ known, same⟩

theorem special_parameterChunks (parameters : List Parameter)
    (free : ∀ parameter ∈ parameters, ¬"#>".toList <:+: parameter.text.toList) :
    ∀ chunk ∈ Declaration.parameterChunks parameters, Clang.Proper chunk ∧ Clang.isPlain chunk = false := by
  intro chunk inside
  obtain ⟨parameter, known, rfl⟩ | rfl := of_mem_parameterChunks inside
  · exact ⟨free parameter known, rfl⟩
  · exact ⟨rfl, rfl⟩

theorem printed_parameterChunks (parameters : List Parameter) :
    Clang.printed (Declaration.parameterChunks parameters) =
      List.intercalate ", ".toList (parameters.map Parameter.shape) := by
  induction parameters with
  | nil => rfl
  | cons first rest ih =>
    cases rest with
    | nil =>
      simp [Declaration.parameterChunks, Clang.printed, Clang.printedChunk, Clang.opening, Clang.closing,
        List.intercalate, Parameter.shape]
    | cons second rest =>
      have one_more (texts : List (List Char)) (text next : List Char) :
          List.intercalate ", ".toList (text :: next :: texts) =
            text ++ ", ".toList ++ List.intercalate ", ".toList (next :: texts) := by
        simp [List.intercalate]
      have rest_printed : Clang.printed (Declaration.parameterChunks (second :: rest)) =
          List.intercalate ", ".toList (second.shape :: rest.map Parameter.shape) := ih
      rw [parameterChunks_cons_cons, List.map_cons, List.map_cons, one_more, ← rest_printed]
      simp [Clang.printed, Clang.printedChunk, Clang.opening, Clang.closing, Parameter.shape]

variable {declaration : Declaration}

theorem canonical_toCandidate (printable : declaration.Printable) : Clang.Canonical declaration.toCandidate.chunks := by
  have named : Clang.Canonical [⟨.typedText, declaration.name⟩] :=
    Clang.Canonical.nil.concat printable.name.proper (by simp)
  cases kind : declaration.kind with
  | struct | typedef => simpa [Declaration.toCandidate, kind] using named
  | function returnType parameters =>
    have returned : Clang.Canonical [⟨.resultType, returnType⟩] :=
      Clang.Canonical.nil.concat (printable.returns _ _ kind).1 (by simp [Clang.isPlain])
    have called : Clang.Canonical [⟨.resultType, returnType⟩, ⟨.typedText, declaration.name⟩] :=
      returned.concat printable.name.proper (by simp [Clang.isPlain])
    have free := special_parameterChunks parameters fun parameter inside =>
      (printable.parameters _ _ kind parameter inside).1
    have special : ∀ chunk ∈ ⟨.leftParen, "("⟩ :: (Declaration.parameterChunks parameters ++ [⟨.rightParen, ")"⟩]),
        Clang.Proper chunk ∧ Clang.isPlain chunk = false := by
      simp only [List.mem_cons, List.mem_append, List.not_mem_nil, or_false]
      rintro chunk (rfl | inside | rfl)
      · exact ⟨rfl, rfl⟩
      · exact free chunk inside
      · exact ⟨rfl, rfl⟩
    simpa [Declaration.toCandidate, kind] using canonical_append called special

theorem printed_toCandidate (declaration : Declaration) :
    Clang.printed declaration.toCandidate.chunks = declaration.shape := by
  cases kind : declaration.kind with
  | struct | typedef =>
    simp [Declaration.toCandidate, Declaration.shape, kind, Clang.printed, Clang.printedChunk, Clang.opening,
      Clang.closing]
  | function returnType parameters =>
    simp only [Declaration.shape, kind]
    rw [← printed_parameterChunks]
    simp [Declaration.toCandidate, kind, Clang.printed, Clang.printedChunk, Clang.opening, Clang.closing]

theorem chunksOf_shape (printable : declaration.Printable) :
    Clang.chunksOf declaration.shape = (declaration.toCandidate.chunks, []) := by
  rw [← printed_toCandidate]
  exact Clang.chunksOf_printed (canonical_toCandidate printable)

end Chunks

section Lines

variable {declaration : C.Declaration}

theorem read?_completion (identifier : IsIdentifier declaration.name) :
    Clang.CompletionLine.read? declaration.completion = some ⟨declaration.name.toList, some declaration.shape⟩ := by
  have dark : ∀ c ∈ declaration.name.toList, (!Text.isBlank c) = true := fun c inside => by
    rw [identifier.not_blank inside]
    rfl
  have blank : (!Text.isBlank ' ') = false := by decide
  have colon (shape : List Char) : " : ".toList ++ shape = ' ' :: ':' :: ' ' :: shape := rfl
  have string (shape : List Char) : Text.behind? [' ', ':', ' '] (' ' :: ':' :: ' ' :: shape) = some shape :=
    Text.behind?_append [' ', ':', ' '] shape
  unfold Clang.CompletionLine.read? C.Declaration.completion
  simp only [List.append_assoc, Text.behind?_append, Option.bind_eq_bind, Option.bind_some,
    List.takeWhile_append_of_pos dark, List.dropWhile_append_of_pos dark, colon]
  simp [blank, identifier.1, string]

theorem line_shape (printable : declaration.Printable) : '\n' ∉ declaration.shape := by
  have name : '\n' ∉ declaration.name.toList := printable.name.not_mem (by decide)
  cases kind : declaration.kind with
  | struct | typedef => simpa [C.Declaration.shape, kind] using name
  | function returnType parameters =>
    have returned := (printable.returns _ _ kind).2
    have listed : '\n' ∉ List.intercalate ", ".toList (parameters.map C.Parameter.shape) := by
      rw [← printed_parameterChunks, Clang.printed, List.mem_flatMap]
      rintro ⟨chunk, inside, broken⟩
      obtain ⟨parameter, known, rfl⟩ | rfl := of_mem_parameterChunks inside
      · have own := (printable.parameters _ _ kind parameter known).2
        simp [Clang.printedChunk, Clang.opening, Clang.closing, own] at broken
      · simp [Clang.printedChunk, Clang.opening, Clang.closing] at broken
    simp only [C.Declaration.shape, kind, List.mem_append, name, returned, listed, or_false]
    decide

theorem line_completion (printable : declaration.Printable) : '\n' ∉ declaration.completion := by
  have name : '\n' ∉ declaration.name.toList := printable.name.not_mem (by decide)
  unfold C.Declaration.completion
  simp only [List.mem_append, name, line_shape printable, or_false]
  decide

theorem getLast?_completion (identifier : IsIdentifier declaration.name) :
    declaration.completion.getLast? ≠ some '\r' := by
  have ends : declaration.name.toList.getLast? ≠ some '\r' := fun last =>
    identifier.not_mem (by decide) (List.mem_of_getLast? last)
  have filled : declaration.name.toList ≠ [] := by simpa using identifier.1
  obtain ⟨init, last, same⟩ := (List.eq_nil_or_concat' declaration.name.toList).resolve_left filled
  have shaped : declaration.shape.getLast? = declaration.name.toList.getLast? ∨
      declaration.shape.getLast? = some ')' := by
    cases kind : declaration.kind with
    | struct | typedef => exact .inl (by simp [C.Declaration.shape, kind])
    | function returnType parameters =>
      right
      simp only [C.Declaration.shape, kind]
      rw [List.getLast?_append]
      rfl
  unfold C.Declaration.completion
  rw [List.getLast?_append]
  rcases shaped with shaped | shaped
  · rw [same] at shaped ends
    simpa [shaped] using ends
  · simp [shaped]

end Lines

section Results

open C (Declaration Parameter)

theorem toList_completions (declarations : List Declaration) : (Declaration.completions declarations).toList =
    declarations.flatMap fun declaration => declaration.completion ++ ['\n'] := String.toList_ofList

theorem completionLines_completions {declarations : List Declaration}
    (printable : ∀ declaration ∈ declarations, declaration.Printable) :
    Clang.completionLines (Declaration.completions declarations) =
      declarations.map fun declaration => ⟨declaration.name.toList, some declaration.shape⟩ := by
  unfold Clang.completionLines
  rw [toList_completions]
  induction declarations with
  | nil => rfl
  | cons declaration rest ih =>
    have own := printable declaration List.mem_cons_self
    have others := ih fun declaration inside => printable declaration (List.mem_cons_of_mem _ inside)
    have kept : (declaration.name.toList != "Pattern".toList) = true :=
      bne_iff_ne.mpr fun same => own.notPattern (String.toList_inj.mp same)
    rw [List.flatMap_cons, List.append_assoc, List.singleton_append,
      Text.linesFrom_append (line_completion own), List.append_nil,
      Text.endLine_of_getLast? (getLast?_completion own.name),
      List.filterMap_cons_some (read?_completion own.name), List.filter_cons, if_pos kept, others, List.map_cons]

theorem candidatesOf_completions {declarations : List Declaration}
    (printable : ∀ declaration ∈ declarations, declaration.Printable) :
    Clang.candidatesOf (Declaration.completions declarations) = (declarations.map fun declaration =>
      ⟨Clang.cursorKindOf declaration.toCandidate.chunks, declaration.toCandidate.chunks⟩, []) := by
  have read : (declarations.map fun declaration => (⟨declaration.name.toList, some declaration.shape⟩ :
      Clang.CompletionLine)).map Clang.CompletionLine.candidate = declarations.map fun declaration =>
      (⟨Clang.cursorKindOf declaration.toCandidate.chunks, declaration.toCandidate.chunks⟩, []) := by
    rw [List.map_map]
    refine List.map_congr_left fun declaration inside => ?_
    simp only [Function.comp, Clang.CompletionLine.candidate, chunksOf_shape (printable declaration inside)]
  unfold Clang.candidatesOf
  rw [completionLines_completions printable, read]
  simp

theorem foldl_parameterChunks (draft : Method.Draft) (parameters : List Parameter) :
    (Declaration.parameterChunks parameters).foldl Method.Draft.add draft =
      { draft with method := { draft.method with parameters := draft.method.parameters ++
        (parameters.mapIdx fun index parameter =>
          (⟨"arg" ++ toString (draft.method.parameters.length + index), parameter.text⟩ : Variable)) } } := by
  have numbered : toString "arg" = "arg" := rfl
  induction parameters generalizing draft with
  | nil => simp [Declaration.parameterChunks]
  | cons first rest ih =>
    cases rest with
    | nil => simp [Declaration.parameterChunks, Method.Draft.add, numbered]
    | cons second rest =>
      rw [parameterChunks_cons_cons, List.foldl_cons, List.foldl_cons, ih]
      simp [Method.Draft.add, Nat.add_assoc, Nat.add_comm 1, numbered]

theorem ofChunks_toCandidate {declaration : Declaration} {returnType : String} {parameters : List Parameter}
    (kind : declaration.kind = .function returnType parameters) :
    Method.ofChunks declaration.toCandidate.chunks =
      ({ name := declaration.name
         returns := [{ name := returnType }]
         parameters := parameters.mapIdx fun index parameter => ⟨"arg" ++ toString index, parameter.text⟩ }, []) := by
  simp only [Method.ofChunks, Declaration.toCandidate, kind, List.foldl_append, foldl_parameterChunks]
  simp [Method.Draft.add]

theorem cursorKindOf_toCandidate {declaration : Declaration} {returnType : String} {parameters : List Parameter}
    (kind : declaration.kind = .function returnType parameters) :
    Clang.cursorKindOf declaration.toCandidate.chunks = .functionDecl := by
  simp [Clang.cursorKindOf, Declaration.toCandidate, kind]

variable (state : CompletionResult × List Warning) (declaration : Declaration)

theorem add_toCandidate : CompletionResult.add state declaration.toCandidate =
    (⟨state.1.types ++ declaration.type?.toList, state.1.methods ++ declaration.method?.toList⟩, state.2) := by
  cases kind : declaration.kind with
  | struct | typedef =>
    simp [CompletionResult.add, Declaration.toCandidate, Declaration.type?, Declaration.method?, kind, String.join]
  | function returnType parameters =>
    have offered := ofChunks_toCandidate kind
    have callable : declaration.toCandidate.cursorKind = .functionDecl := by simp [Declaration.toCandidate, kind]
    simp [CompletionResult.add, callable, offered, Declaration.type?, Declaration.method?, kind]

theorem add_guessed : CompletionResult.add state
      ⟨Clang.cursorKindOf declaration.toCandidate.chunks, declaration.toCandidate.chunks⟩ =
    CompletionResult.add state declaration.toCandidate := by
  cases kind : declaration.kind with
  | struct | typedef =>
    simp [CompletionResult.add, Declaration.toCandidate, kind, Clang.cursorKindOf]
  | function returnType parameters =>
    rw [cursorKindOf_toCandidate kind]
    simp [CompletionResult.add, Declaration.toCandidate, kind]

variable {state declaration}

theorem ofCandidates_toCandidate (declarations : List Declaration) :
    CompletionResult.ofCandidates (declarations.map Declaration.toCandidate) =
      (⟨declarations.filterMap Declaration.type?, declarations.filterMap Declaration.method?⟩, []) := by
  suffices general : ∀ state, (declarations.map Declaration.toCandidate).foldl CompletionResult.add state =
      (⟨state.1.types ++ declarations.filterMap Declaration.type?,
        state.1.methods ++ declarations.filterMap Declaration.method?⟩, state.2) from general _
  induction declarations with
  | nil => simp
  | cons declaration rest ih =>
    intro state
    rw [List.map_cons, List.foldl_cons, ih, add_toCandidate]
    simp only [List.filterMap_cons, List.append_assoc]
    cases declaration.type? <;> cases declaration.method? <;> simp

/-- Candidates that were offered directly, and those that were printed as the compiler prints them and read back, give
out the same completions. In them stands each function, under its own name, with its one result and its parameters. -/
theorem engines_offer_alike (declarations : List Declaration)
    (printable : ∀ declaration ∈ declarations, declaration.Printable) :
    let read := Clang.candidatesOf (Declaration.completions declarations)
    let offered := declarations.map Declaration.toCandidate
    read.2 = [] ∧ read.1.map Candidate.chunks = offered.map Candidate.chunks ∧
      List.Forall₂ (fun declaration candidate =>
        declaration.method?.isSome → candidate = declaration.toCandidate) declarations read.1 ∧
      CompletionResult.ofCandidates read.1 = CompletionResult.ofCandidates offered ∧
      CompletionResult.ofCandidates offered =
        (⟨declarations.filterMap Declaration.type?, declarations.filterMap Declaration.method?⟩, []) := by
  intro read offered
  have found : read = (declarations.map fun declaration =>
      ⟨Clang.cursorKindOf declaration.toCandidate.chunks, declaration.toCandidate.chunks⟩, []) :=
    candidatesOf_completions printable
  rw [found]
  refine ⟨rfl, by simp [offered], ?functions, ?alike, ofCandidates_toCandidate declarations⟩
  case functions =>
    rw [List.forall₂_map_right_iff, List.forall₂_same]
    intro declaration _ callable
    cases kind : declaration.kind with
    | struct | typedef => simp [Declaration.method?, kind] at callable
    | function returnType parameters =>
      rw [cursorKindOf_toCandidate kind]
      simp [Declaration.toCandidate, kind]
  case alike =>
    simp only [CompletionResult.ofCandidates, offered, List.foldl_map, add_guessed]

/-- A function whose parameters have commas, parentheses and marks in them is offered alike, and so is a structure. -/
theorem function_and_structure_are_offered_alike :
    let declarations : List Declaration :=
      [⟨"größe", .function "const char *" [⟨"", "int (*)(int, #<)"⟩, ⟨"x", "T[#]"⟩], ⟨"a.c", 1, 1⟩⟩,
        ⟨"point", .struct, ⟨"a.c", 2, 1⟩⟩]
    CompletionResult.ofCandidates (Clang.candidatesOf (Declaration.completions declarations)).1 =
      (⟨[⟨"point", .classType⟩], [⟨"größe", [⟨"const char *", ""⟩],
        [⟨"arg0", "int (*)(int, #<)"⟩, ⟨"arg1", "T[#] x"⟩]⟩]⟩, []) := by
  intro declarations
  have names : IsIdentifier "größe" ∧ IsIdentifier "point" :=
    ⟨⟨by decide, List.all_eq_true.mp (by decide)⟩, ⟨by decide, List.all_eq_true.mp (by decide)⟩⟩
  have printable : ∀ declaration ∈ declarations, declaration.Printable := by
    simp only [declarations, List.forall_mem_cons]
    refine ⟨⟨names.1, by decide, ?_, ?_⟩, ⟨names.2, by decide, by simp, by simp⟩, by simp⟩
    · rintro returnType parameters ⟨⟩
      decide
    · rintro returnType parameters ⟨⟩
      decide
  obtain ⟨-, -, -, alike, offered⟩ := engines_offer_alike declarations printable
  rw [alike, offered]
  rfl

end Results

end UnitCache
