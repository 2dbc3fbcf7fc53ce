import UnitCache.Proofs.Slices
/-!
Completion strings and the chunks that they are read as. Nothing is lost: the chunks of a string are printed as that
very string. And there is but one way to read it: what canonical chunks are printed as is read as those chunks again.
-/
namespace UnitCache.Clang

def opening : ChunkKind → List Char
  | .resultType => ['[', '#']
  | .placeholder => ['<', '#']
  | _ => []

def closing : ChunkKind → List Char
  | .resultType => ['#', ']']
  | .placeholder => ['#', '>']
  | _ => []

def printedChunk (chunk : Chunk) : List Char := opening chunk.kind ++ chunk.text.toList ++ closing chunk.kind

def printed (chunks : List Chunk) : List Char := chunks.flatMap printedChunk

/-- Chunks as a completion string in which the last one is not closed. -/
def printedOpen (front : List Chunk) (last : Chunk) : List Char :=
  printed front ++ opening last.kind ++ last.text.toList

def isPlain (chunk : Chunk) : Bool := chunk.kind == .typedText || chunk.kind == .text

def isMarked (chunk : Chunk) : Bool := chunk.kind == .resultType || chunk.kind == .placeholder

def separators : List String := ["[#", "<#", "\x7b#", ", ", "(", ")"]

def Proper (chunk : Chunk) : Prop :=
  match chunk.kind with
  | .typedText | .text => chunk.text ≠ "" ∧ ∀ separator ∈ separators, ¬separator.toList <:+: chunk.text.toList
  | .resultType => ¬"#]".toList <:+: chunk.text.toList
  | .placeholder => ¬"#>".toList <:+: chunk.text.toList
  | .comma => chunk.text = ", "
  | .leftParen => chunk.text = "("
  | .rightParen => chunk.text = ")"
  | .informative | .optional => False

/-- Chunks as they are read off a string in which nothing may be left out. -/
structure Canonical (chunks : List Chunk) : Prop where
  proper : ∀ chunk ∈ chunks, Proper chunk
  apart : chunks.IsChain fun left right => ¬(isPlain left = true ∧ isPlain right = true)
  typed : ∀ before chunk behind, chunks = before ++ chunk :: behind → isPlain chunk = true →
    (chunk.kind = .typedText ↔ ∀ other ∈ before, isPlain other = false)

section Canon

variable {init back : List Chunk} {chunk : Chunk}

theorem Canonical.nil : Canonical [] where
  proper := by simp
  apart := .nil
  typed := by simp

theorem Canonical.front (canonical : Canonical (init ++ back)) : Canonical init where
  proper chunk inside := canonical.proper chunk (List.mem_append_left _ inside)
  apart := canonical.apart.left_of_append
  typed before chunk behind split := canonical.typed before chunk (behind ++ back) (by rw [split]; simp)

theorem Canonical.proper_at (canonical : Canonical (init ++ chunk :: back)) : Proper chunk :=
  canonical.proper chunk (by simp)

theorem Canonical.kind_of_plain (canonical : Canonical (init ++ chunk :: back)) (plain : isPlain chunk = true) :
    chunk.kind = if init.any isPlain then .text else .typedText := by
  have first := canonical.typed init chunk back rfl plain
  cases earlier : init.any isPlain with
  | false =>
    have none_before : ∀ other ∈ init, isPlain other = false := by simpa using earlier
    exact first.mpr none_before
  | true =>
    obtain ⟨other, inside, also⟩ := List.any_eq_true.mp earlier
    have later : chunk.kind ≠ .typedText := fun typed => by simp [first.mp typed other inside] at also
    rcases (by simpa [isPlain] using plain : chunk.kind = .typedText ∨ chunk.kind = .text) with typed | text
    · exact absurd typed later
    · exact text

/-- A chunk may stand behind canonical ones if its text is one of its kind, and if plain text stands behind none and
is to be typed only if it is the first. -/
theorem Canonical.concat (canonical : Canonical init) (proper : Proper chunk)
    (plain : isPlain chunk = true → (∀ last ∈ init.getLast?, isPlain last = false) ∧
      chunk.kind = if init.any isPlain then .text else .typedText) : Canonical (init ++ [chunk]) where
  proper other inside := by
    rcases List.mem_append.mp inside with inside | here
    · exact canonical.proper other inside
    · rwa [List.mem_singleton.mp here]
  apart := canonical.apart.append (.singleton _) fun last is_last other here => by
    obtain rfl : chunk = other := by simpa using here
    rintro ⟨before, own⟩
    rw [(plain own).1 last is_last] at before
    cases before
  typed before other behind split own := by
    rcases List.eq_nil_or_concat' behind with rfl | ⟨inner, last, rfl⟩
    · obtain ⟨rfl, same⟩ := List.append_inj' split rfl
      cases same
      rw [(plain own).2]
      cases earlier : init.any isPlain with
      | false => simpa using earlier
      | true => simpa using earlier
    · have longer : init ++ [chunk] = (before ++ other :: inner) ++ [last] := by rw [split]; simp
      obtain ⟨rfl, _⟩ := List.append_inj' longer rfl
      exact canonical.typed before other inner rfl own

end Canon

section Plain

def startsMark (left right : Char) : Bool :=
  right == '#' && (left == '[' || left == '<' || left == '\x7b') || left == ',' && right == ' '

theorem startsMark_iff {left right : Char} : startsMark left right = true ↔
    right = '#' ∧ (left = '[' ∨ left = '<' ∨ left = '\x7b') ∨ left = ',' ∧ right = ' ' := by
  simp [startsMark, or_assoc]

/-- Where no plain text goes on. -/
inductive Stop : List Char → Prop where
  | done : Stop []
  | resultType (text : List Char) : Stop ('[' :: '#' :: text)
  | placeholder (text : List Char) : Stop ('<' :: '#' :: text)
  | optional (text : List Char) : Stop ('\x7b' :: '#' :: text)
  | comma (text : List Char) : Stop (',' :: ' ' :: text)
  | leftParen (text : List Char) : Stop ('(' :: text)
  | rightParen (text : List Char) : Stop (')' :: text)

theorem not_stop_cons {c next : Char} {text : List Char} (goes_on : ¬Stop (c :: next :: text)) :
    startsMark c next = false := by
  rw [Bool.eq_false_iff]
  intro starts
  rcases startsMark_iff.mp starts with ⟨rfl, rfl | rfl | rfl⟩ | ⟨rfl, rfl⟩ <;> exact goes_on (by constructor)

theorem free_of_separators_iff {text : List Char} :
    (∀ separator ∈ separators, ¬separator.toList <:+: text) ↔
      (text.IsChain fun left right => startsMark left right = false) ∧ ∀ c ∈ text, c ≠ '(' ∧ c ≠ ')' := by
  have pairs : (∀ separator ∈ separators, ¬separator.toList <:+: text) ↔
      (¬['[', '#'] <:+: text ∧ ¬['<', '#'] <:+: text ∧ ¬['\x7b', '#'] <:+: text ∧ ¬[',', ' '] <:+: text) ∧
        ¬['('] <:+: text ∧ ¬[')'] <:+: text := by
    simp [separators, and_assoc]
  rw [pairs]
  simp only [not_infix_pair, List.singleton_infix_iff, List.isChain_iff_forall_rel_of_append_cons_cons]
  constructor
  · rintro ⟨⟨square, angle, brace, comma⟩, left, right⟩
    refine ⟨fun a b before behind split => ?_, fun c inside => ⟨?_, ?_⟩⟩
    · rw [Bool.eq_false_iff]
      intro starts
      rcases startsMark_iff.mp starts with ⟨rfl, rfl | rfl | rfl⟩ | ⟨rfl, rfl⟩
      · exact square split ⟨rfl, rfl⟩
      · exact angle split ⟨rfl, rfl⟩
      · exact brace split ⟨rfl, rfl⟩
      · exact comma split ⟨rfl, rfl⟩
    · rintro rfl
      exact left inside
    · rintro rfl
      exact right inside
  · rintro ⟨apart, parens⟩
    refine ⟨⟨?_, ?_, ?_, ?_⟩, fun inside => (parens _ inside).1 rfl, fun inside => (parens _ inside).2 rfl⟩ <;>
    · rintro a b before behind split ⟨rfl, rfl⟩
      have none_here := apart split
      simp [startsMark] at none_here

theorem plain_up_to_stop (text : List Char) : ∃ plain rest, text = plain ++ rest ∧ Stop rest ∧
    ∀ separator ∈ separators, ¬separator.toList <:+: plain := by
  simp only [free_of_separators_iff]
  induction text with
  | nil => exact ⟨[], [], rfl, .done, .nil, by simp⟩
  | cons c text ih =>
    obtain ⟨plain, rest, rfl, stop, apart, parens⟩ := ih
    by_cases here : Stop (c :: (plain ++ rest))
    · exact ⟨[], _, rfl, here, .nil, by simp⟩
    · refine ⟨c :: plain, rest, rfl, stop, apart.cons fun next is_next => ?_, fun d inside => ?_⟩
      · obtain ⟨more, rfl⟩ : ∃ more, plain = next :: more := List.head?_eq_some_iff.mp is_next
        exact not_stop_cons here
      · rcases List.mem_cons.mp inside with rfl | inside
        · exact ⟨by rintro rfl; exact here (.leftParen _), by rintro rfl; exact here (.rightParen _)⟩
        · exact parens d inside

theorem not_stop_of_free {c : Char} {plain rest : List Char}
    (free : ∀ separator ∈ separators, ¬separator.toList <:+: c :: plain) (stop : Stop rest) :
    ¬Stop (c :: (plain ++ rest)) := by
  obtain ⟨apart, parens⟩ := free_of_separators_iff.mp free
  have own := parens c (by simp)
  intro here
  cases plain with
  | nil =>
    have here : Stop (c :: rest) := here
    cases here with
    | leftParen => exact own.1 rfl
    | rightParen => exact own.2 rfl
    | _ => cases stop
  | cons next plain =>
    have neighbours := (List.isChain_cons_cons.mp apart).1
    have here : Stop (c :: next :: (plain ++ rest)) := here
    cases here with
    | leftParen => exact own.1 rfl
    | rightParen => exact own.2 rfl
    | _ => simp [startsMark] at neighbours

end Plain

section Reading

variable {draft : ChunkDraft} {init back : List Chunk} {chunk : Chunk} {warnings : List Warning}

theorem read_plain_char {c : Char} {text : List Char} (goes_on : ¬Stop (c :: text)) :
    draft.read (c :: text) = ChunkDraft.read { draft with plain := c :: draft.plain } text := by
  rw [ChunkDraft.read] <;> intros <;> subst_vars <;> exact goes_on (by constructor)

theorem flush_flush : draft.flush.flush = draft.flush := by
  unfold ChunkDraft.flush
  cases empty : draft.plain.isEmpty <;> simp [empty]

theorem push_flush (kind : ChunkKind) (text : List Char) : draft.flush.push kind text = draft.push kind text := by
  rw [ChunkDraft.push, flush_flush, ChunkDraft.push]

theorem pushMarked_flush (kind : ChunkKind) (marked : Marked) :
    draft.flush.pushMarked kind marked = draft.pushMarked kind marked := by
  simp only [ChunkDraft.pushMarked, push_flush]

/-- Where no plain text goes on, what there was of it may as well be a chunk. -/
theorem read_flush {text : List Char} (stop : Stop text) : draft.flush.read text = draft.read text := by
  cases stop with
  | done => rw [ChunkDraft.read, ChunkDraft.read, flush_flush]
  | resultType | placeholder | optional => rw [ChunkDraft.read, ChunkDraft.read, pushMarked_flush]
  | comma | leftParen | rightParen => rw [ChunkDraft.read, ChunkDraft.read, push_flush]

theorem read_plain {plain tail : List Char} (free : ∀ separator ∈ separators, ¬separator.toList <:+: plain)
    (stop : Stop tail) :
    draft.read (plain ++ tail) = ChunkDraft.read { draft with plain := plain.reverse ++ draft.plain } tail := by
  induction plain generalizing draft with
  | nil => rfl
  | cons c plain ih =>
    have shorter : ∀ separator ∈ separators, ¬separator.toList <:+: plain := fun separator known inside =>
      free separator known (inside.trans (List.suffix_cons c plain).isInfix)
    rw [List.cons_append, read_plain_char (not_stop_of_free free stop), ih shorter]
    simp

/-- How far the reading of a completion string is behind chunks. -/
def draftOf (chunks : List Chunk) (warnings : List Warning) : ChunkDraft :=
  { chunks, typed := chunks.any isPlain, warnings }

theorem flush_draftOf (chunks : List Chunk) (warnings : List Warning) :
    (draftOf chunks warnings).flush = draftOf chunks warnings := rfl

theorem Proper.of_plain (proper : Proper chunk) (plain : isPlain chunk = true) :
    chunk.text ≠ "" ∧ ∀ separator ∈ separators, ¬separator.toList <:+: chunk.text.toList := by
  rcases (by simpa [isPlain] using plain : chunk.kind = .typedText ∨ chunk.kind = .text) with same | same <;>
    · rw [Proper, same] at proper
      exact proper

theorem flush_plain (canonical : Canonical (init ++ chunk :: back)) (plain : isPlain chunk = true) :
    ChunkDraft.flush { draftOf init warnings with plain := chunk.text.toList.reverse } =
      draftOf (init ++ [chunk]) warnings := by
  have filled : chunk.text.toList.reverse.isEmpty = false := by simpa using (canonical.proper_at.of_plain plain).1
  have kind := canonical.kind_of_plain plain
  have same : (⟨if init.any isPlain then .text else .typedText, chunk.text⟩ : Chunk) = chunk := by rw [← kind]
  cases earlier : init.any isPlain <;> rw [earlier] at same <;>
    simpa [ChunkDraft.flush, draftOf, filled, plain, earlier] using same

theorem read_chunk (proper : Proper chunk) (special : isPlain chunk = false) (tail : List Char) :
    (draftOf init warnings).read (printedChunk chunk ++ tail) = (draftOf (init ++ [chunk]) warnings).read tail := by
  obtain ⟨kind, text⟩ := chunk
  have pushed : (draftOf init warnings).push kind text.toList = draftOf (init ++ [⟨kind, text⟩]) warnings := by
    rw [ChunkDraft.push, flush_draftOf]
    simp [draftOf, special]
  cases kind with
  | typedText | text => cases special
  | informative | optional => cases proper
  | resultType =>
    have cut := cutAt?_append (by decide : '#' ≠ ']') proper tail
    have marked : readMarked '#' ']' (text.toList ++ '#' :: ']' :: tail) = ⟨text.toList, tail, []⟩ := by
      rw [readMarked, cut]
    simp only [printedChunk, opening, closing, List.cons_append, List.nil_append, List.append_assoc]
    rw [ChunkDraft.read, marked, ChunkDraft.pushMarked, pushed]
    simp [draftOf]
  | placeholder =>
    have cut := cutAt?_append (by decide : '#' ≠ '>') proper tail
    have marked : readMarked '#' '>' (text.toList ++ '#' :: '>' :: tail) = ⟨text.toList, tail, []⟩ := by
      rw [readMarked, cut]
    simp only [printedChunk, opening, closing, List.cons_append, List.nil_append, List.append_assoc]
    rw [ChunkDraft.read, marked, ChunkDraft.pushMarked, pushed]
    simp [draftOf]
  | comma =>
    cases proper
    exact (by rw [ChunkDraft.read, ← pushed]; rfl :
      (draftOf init warnings).read (',' :: ' ' :: tail) = (draftOf (init ++ [⟨.comma, ", "⟩]) warnings).read tail)
  | leftParen =>
    cases proper
    exact (by rw [ChunkDraft.read, ← pushed]; rfl :
      (draftOf init warnings).read ('(' :: tail) = (draftOf (init ++ [⟨.leftParen, "("⟩]) warnings).read tail)
  | rightParen =>
    cases proper
    exact (by rw [ChunkDraft.read, ← pushed]; rfl :
      (draftOf init warnings).read (')' :: tail) = (draftOf (init ++ [⟨.rightParen, ")"⟩]) warnings).read tail)

theorem stop_printed (proper : Proper chunk) (special : isPlain chunk = false) (tail : List Char) :
    Stop (printedChunk chunk ++ tail) := by
  obtain ⟨kind, text⟩ := chunk
  cases kind with
  | typedText | text => cases special
  | informative | optional => cases proper
  | resultType => exact .resultType _
  | placeholder => exact .placeholder _
  | comma => cases proper; exact .comma _
  | leftParen => cases proper; exact .leftParen _
  | rightParen => cases proper; exact .rightParen _

/-- What canonical chunks are printed as is read as these chunks, up to where no plain text goes on. -/
theorem read_printed {tail : List Char} (canonical : Canonical (init ++ back)) (stop : Stop tail) :
    (draftOf init warnings).read (printed back ++ tail) = (draftOf (init ++ back) warnings).read tail := by
  induction back generalizing init with
  | nil => rw [List.append_nil]; rfl
  | cons chunk back ih =>
    have longer : init ++ chunk :: back = (init ++ [chunk]) ++ back := by simp
    have rest := ih (longer ▸ canonical)
    rw [longer, ← rest, printed, List.flatMap_cons, List.append_assoc, ← printed]
    cases plain : isPlain chunk with
    | false => exact read_chunk canonical.proper_at plain _
    | true =>
      have stop : Stop (printed back ++ tail) := by
        cases back with
        | nil => exact stop
        | cons next back =>
          have apart := (List.isChain_cons_cons.mp canonical.apart.right_of_append).1
          have special : isPlain next = false := by simpa [plain] using apart
          rw [printed, List.flatMap_cons, List.append_assoc]
          exact stop_printed (canonical.proper next (by simp)) special _
      have as_text : printedChunk chunk = chunk.text.toList := by
        rcases (by simpa [isPlain] using plain : chunk.kind = .typedText ∨ chunk.kind = .text) with same | same <;>
          simp [printedChunk, opening, closing, same]
      rw [as_text, read_plain (canonical.proper_at.of_plain plain).2 stop, ← flush_plain canonical plain,
        read_flush stop]
      simp [draftOf]

end Reading

section Splitting

variable {init : List Chunk} {text : List Char}

/-- What a completion string is made of: canonical chunks, of which the last may not be closed, up to its end or up to
a part that may be left out. -/
inductive Splits (text : List Char) : Prop where
  | closed (chunks : List Chunk) (canonical : Canonical chunks) (same : text = printed chunks)
  | unclosed (front : List Chunk) (last : Chunk) (canonical : Canonical (front ++ [last]))
      (marked : isMarked last = true) (same : text = printedOpen front last)
  | optional (front : List Chunk) (rest : List Char) (canonical : Canonical front)
      (same : text = printed front ++ '\x7b' :: '#' :: rest)

theorem canonical_plain (canonical : Canonical init) (closed : ∀ last ∈ init.getLast?, isPlain last = false)
    {plain : List Char} (free : ∀ separator ∈ separators, ¬separator.toList <:+: plain) :
    ∃ more, Canonical (init ++ more) ∧ printed more = plain := by
  by_cases empty : plain = []
  · exact ⟨[], by simpa using canonical, by simp [printed, empty]⟩
  · let kind : ChunkKind := if init.any isPlain then .text else .typedText
    refine ⟨[⟨kind, String.ofList plain⟩], canonical.concat ?_ fun _ => ⟨closed, rfl⟩, ?_⟩
    · have proper : String.ofList plain ≠ "" ∧
          ∀ separator ∈ separators, ¬separator.toList <:+: (String.ofList plain).toList := by
        simpa [String.ext_iff, empty] using free
      cases earlier : init.any isPlain <;> simpa [kind, earlier, Proper] using proper
    · cases earlier : init.any isPlain <;> simp [kind, earlier, printed, printedChunk, opening, closing]

theorem marked_cases {kind : ChunkKind} (marks : kind = .resultType ∨ kind = .placeholder) (text : List Char) :
    ∃ inner : String, Proper ⟨kind, inner⟩ ∧
      (text = inner.toList ∨ ∃ rest, opening kind ++ text = printedChunk ⟨kind, inner⟩ ++ rest) := by
  rcases marks with rfl | rfl
  · rcases cutFrom_cases '#' ']' [] text with ⟨inner, rest, rfl, free, _⟩ | ⟨free, _⟩
    · exact ⟨String.ofList inner, by simpa [Proper] using free, .inr ⟨rest, by simp [printedChunk, opening, closing]⟩⟩
    · exact ⟨String.ofList text, by simpa [Proper] using free, .inl (by simp)⟩
  · rcases cutFrom_cases '#' '>' [] text with ⟨inner, rest, rfl, free, _⟩ | ⟨free, _⟩
    · exact ⟨String.ofList inner, by simpa [Proper] using free, .inr ⟨rest, by simp [printedChunk, opening, closing]⟩⟩
    · exact ⟨String.ofList text, by simpa [Proper] using free, .inl (by simp)⟩

/-- Every completion string splits so, also behind canonical chunks. -/
theorem splits_behind (canonical : Canonical init) (closed : ∀ last ∈ init.getLast?, isPlain last = false)
    (text : List Char) : Splits (printed init ++ text) := by
  induction length : text.length using Nat.strong_induction_on generalizing init text with
  | _ size ih =>
    obtain ⟨plain, rest, rfl, stop, free⟩ := plain_up_to_stop text
    obtain ⟨more, longer, rfl⟩ := canonical_plain canonical closed free
    have whole (rest : List Char) : printed init ++ (printed more ++ rest) = printed (init ++ more) ++ rest := by
      simp [printed]
    rw [whole]
    have goes_on (chunk : Chunk) (proper : Proper chunk) (special : isPlain chunk = false) (behind : List Char)
        (shorter : behind.length < size) (split : rest = printedChunk chunk ++ behind) :
        Splits (printed (init ++ more) ++ rest) := by
      have next : Canonical (init ++ more ++ [chunk]) := longer.concat proper (by simp [special])
      have splits := ih _ shorter next (by simp [special]) behind rfl
      rw [split, ← List.append_assoc]
      simpa [printed] using splits
    have goes_on_marked (kind : ChunkKind) (marks : kind = .resultType ∨ kind = .placeholder) (behind : List Char)
        (split : rest = opening kind ++ behind) : Splits (printed (init ++ more) ++ rest) := by
      have special (inner : String) : isPlain ⟨kind, inner⟩ = false := by rcases marks with rfl | rfl <;> rfl
      obtain ⟨inner, proper, unclosed | ⟨later, closed⟩⟩ := marked_cases marks behind
      · refine .unclosed (init ++ more) ⟨kind, inner⟩ (longer.concat proper (by simp [special])) ?_ ?_
        · rcases marks with rfl | rfl <;> rfl
        · rw [split, unclosed, printedOpen, List.append_assoc]
      · refine goes_on ⟨kind, inner⟩ proper (special inner) later ?_ (split.trans closed)
        have counted := congrArg List.length (split.trans closed)
        rcases marks with rfl | rfl <;>
        · simp [printedChunk, opening, closing] at counted length
          omega
    cases stop with
    | done => exact .closed _ longer (by simp)
    | optional behind => exact .optional _ behind longer rfl
    | comma behind => exact goes_on ⟨.comma, ", "⟩ rfl rfl behind (by simp at length; omega) rfl
    | leftParen behind => exact goes_on ⟨.leftParen, "("⟩ rfl rfl behind (by simp at length; omega) rfl
    | rightParen behind => exact goes_on ⟨.rightParen, ")"⟩ rfl rfl behind (by simp at length; omega) rfl
    | resultType behind => exact goes_on_marked .resultType (.inl rfl) behind rfl
    | placeholder behind => exact goes_on_marked .placeholder (.inr rfl) behind rfl

theorem splits (text : List Char) : Splits text := splits_behind .nil (by simp) text

end Splitting

section Decoding

variable {draft : ChunkDraft} {front : List Chunk} {last : Chunk}

theorem flush_keeps : draft.chunks <+: draft.flush.chunks := by
  unfold ChunkDraft.flush
  split
  next => exact List.prefix_rfl
  next => exact List.prefix_append ..

theorem push_keeps (kind : ChunkKind) (text : List Char) : draft.chunks <+: (draft.push kind text).chunks :=
  flush_keeps.trans (List.prefix_append ..)

/-- No chunk is ever taken back. -/
theorem read_keeps (text : List Char) : draft.chunks <+: (draft.read text).chunks := by
  induction draft, text using ChunkDraft.read.induct with
  | case1 draft => rw [ChunkDraft.read]; exact flush_keeps
  | case2 draft text _ ih | case3 draft text _ ih | case4 draft text _ ih =>
    rw [ChunkDraft.read]
    exact (push_keeps _ _).trans ih
  | case5 draft text ih | case6 draft text ih | case7 draft text ih =>
    rw [ChunkDraft.read]
    exact (push_keeps _ _).trans ih
  | case8 draft c text _ _ _ _ _ _ ih => rw [ChunkDraft.read] <;> assumption

theorem chunksOf_printed {chunks : List Chunk} (canonical : Canonical chunks) :
    chunksOf (printed chunks) = (chunks, []) := by
  have known : Canonical ([] ++ chunks) := canonical
  have reading : (draftOf [] []).read (printed chunks ++ []) = (draftOf chunks []).read [] := read_printed known .done
  rw [List.append_nil, ChunkDraft.read, flush_draftOf] at reading
  exact congrArg (fun draft : ChunkDraft => (draft.chunks, draft.warnings)) reading

theorem chunksOf_printedOpen (canonical : Canonical (front ++ [last])) (marked : isMarked last = true) :
    chunksOf (printedOpen front last) = (front ++ [last], [.openMarker last.text]) := by
  obtain ⟨kind, text⟩ := last
  have known : Canonical ([] ++ front) := canonical.front
  have proper : Proper ⟨kind, text⟩ := canonical.proper _ (by simp)
  suffices read_on : (draftOf front []).read (opening kind ++ text.toList) =
      { draftOf (front ++ [⟨kind, text⟩]) [.openMarker text] with typed := front.any isPlain } by
    have stop : Stop (opening kind ++ text.toList) := by
      cases kind <;> first | (cases marked; done) | constructor
    have reading : (draftOf [] []).read (printed front ++ (opening kind ++ text.toList)) = _ :=
      (read_printed known stop).trans read_on
    rw [printedOpen, List.append_assoc]
    exact congrArg (fun draft : ChunkDraft => (draft.chunks, draft.warnings)) reading
  cases kind with
  | resultType =>
    have rest : readMarked '#' ']' text.toList = ⟨text.toList, [], [.openMarker text]⟩ := by
      have free : ¬['#', ']'] <:+: text.toList := proper
      rw [readMarked, cutAt?_eq_none free, String.ofList_toList]
    rw [opening, List.cons_append, List.cons_append, List.nil_append, ChunkDraft.read, rest, ChunkDraft.read]
    simp [ChunkDraft.pushMarked, ChunkDraft.push, ChunkDraft.flush, draftOf]
  | placeholder =>
    have rest : readMarked '#' '>' text.toList = ⟨text.toList, [], [.openMarker text]⟩ := by
      have free : ¬['#', '>'] <:+: text.toList := proper
      rw [readMarked, cutAt?_eq_none free, String.ofList_toList]
    rw [opening, List.cons_append, List.cons_append, List.nil_append, ChunkDraft.read, rest, ChunkDraft.read]
    simp [ChunkDraft.pushMarked, ChunkDraft.push, ChunkDraft.flush, draftOf]
  | _ => cases marked

theorem optional_is_read (canonical : Canonical front) (rest : List Char) :
    ∃ chunk ∈ (chunksOf (printed front ++ '\x7b' :: '#' :: rest)).1, chunk.kind = .optional := by
  have known : Canonical ([] ++ front) := canonical
  have reading : (draftOf [] []).read _ = _ := read_printed known (.optional rest)
  rw [ChunkDraft.read] at reading
  have kept : ((draftOf ([] ++ front) []).pushMarked .optional (readOptional rest)).chunks <+: _ :=
    read_keeps (readOptional rest).rest
  rw [← reading] at kept
  exact ⟨⟨.optional, String.ofList (readOptional rest).inner⟩, kept.subset (by
    simp [ChunkDraft.pushMarked, ChunkDraft.push]), rfl⟩

end Decoding

/-- Nothing is lost of a completion string, and there is one way to read it. The chunks of a string in which nothing may
be left out are canonical and are printed as that string, without the end of the last one if a warning tells that it is
not there; and canonical chunks are what is read off the string that they are printed as. Going through a string by byte
offsets meets no error. -/
theorem completion_strings_are_decoded :
    (∀ text : List Char, (∀ chunk ∈ (chunksOf text).1, chunk.kind ≠ .optional) →
      Canonical (chunksOf text).1 ∧
      ((chunksOf text).2 = [] → printed (chunksOf text).1 = text) ∧
      ((chunksOf text).2 ≠ [] → ∃ front last, (chunksOf text).1 = front ++ [last] ∧ isMarked last = true ∧
        printedOpen front last = text ∧ (chunksOf text).2 = [.openMarker last.text])) ∧
    (∀ chunks, Canonical chunks → chunksOf (printed chunks) = (chunks, [])) ∧
    (∀ front last, Canonical (front ++ [last]) → isMarked last = true →
      chunksOf (printedOpen front last) = (front ++ [last], [.openMarker last.text])) ∧
    (∀ text, (readSliced? {} text).map (fun draft => (draft.chunks, draft.warnings)) = some (chunksOf text)) := by
  refine ⟨fun text whole => ?_, fun _ => chunksOf_printed, fun _ _ => chunksOf_printedOpen, fun text => ?_⟩
  · cases splits text with
    | closed chunks canonical same =>
      rw [same, chunksOf_printed canonical]
      exact ⟨canonical, fun _ => rfl, fun warned => absurd rfl warned⟩
    | unclosed front last canonical marked same =>
      rw [same, chunksOf_printedOpen canonical marked]
      exact ⟨canonical, by simp, fun _ => ⟨front, last, rfl, marked, rfl, rfl⟩⟩
    | optional front rest canonical same =>
      obtain ⟨left_out, inside, kind⟩ := optional_is_read canonical rest
      rw [same] at whole
      exact absurd kind (whole left_out inside)
  · rw [readSliced?_eq]
    rfl

theorem unclosed_placeholder_is_read :
    Canonical (chunksOf "[#int#]f(<#ü".toList).1 ∧ (chunksOf "[#int#]f(<#ü".toList).2 ≠ [] ∧
      ∃ front last, (chunksOf "[#int#]f(<#ü".toList).1 = front ++ [last] ∧ isMarked last = true ∧
        printedOpen front last = "[#int#]f(<#ü".toList ∧
          (chunksOf "[#int#]f(<#ü".toList).2 = [.openMarker last.text] := by
  have reading : chunksOf "[#int#]f(<#ü".toList =
      ([⟨.resultType, "int"⟩, ⟨.typedText, "f"⟩, ⟨.leftParen, "("⟩, ⟨.placeholder, "ü"⟩], [.openMarker "ü"]) := by
    cbv
  have whole : ∀ chunk ∈ (chunksOf "[#int#]f(<#ü".toList).1, chunk.kind ≠ .optional := by
    rw [reading]
    decide
  have warned : (chunksOf "[#int#]f(<#ü".toList).2 ≠ [] := by
    rw [reading]
    decide
  obtain ⟨canonical, _, unclosed⟩ := completion_strings_are_decoded.1 _ whole
  exact ⟨canonical, warned, unclosed warned⟩

end UnitCache.Clang
