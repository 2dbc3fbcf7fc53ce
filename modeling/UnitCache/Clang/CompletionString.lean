import UnitCache.Warning
/-!
Completion strings as the compiler prints them: marks around what is returned, around placeholders and around what
may be left out, and plain text between. The first plain text is what is to be typed.
-/
namespace UnitCache.Clang

/-- Cuts a text at the first place where two characters stand side by side; gives what stands before and behind
them. `before` is what was passed, the last character first. -/
def cutFrom (first second : Char) (before : List Char) : List Char → Option (List Char × List Char)
  | [] => none
  | [_] => none
  | c :: next :: rest =>
    if c == first && next == second then some (before.reverse, rest)
    else cutFrom first second (c :: before) (next :: rest)

def cutAt? (first second : Char) (text : List Char) : Option (List Char × List Char) := cutFrom first second [] text

/-- A text without any place where two characters stand side by side, as found from the left. -/
def without (first second : Char) : List Char → List Char
  | [] => []
  | [c] => [c]
  | c :: next :: rest =>
    if c == first && next == second then without first second rest
    else c :: without first second (next :: rest)

/-- A text without marks; each kind of mark is taken out after the one before. -/
def withoutMarks (text : List Char) : List Char :=
  [('\x7b', '#'), ('#', '\x7d'), ('<', '#'), ('#', '>'), ('[', '#'), ('#', ']')].foldl
    (fun text mark => without mark.1 mark.2 text) text

/-- Finds the end of what may be left out, behind its start; such parts may lie in each other, and `depth` are open
around the outermost one. Gives what stands before and behind the end. -/
def optionalEnd? (depth : Nat) (before : List Char) : List Char → Option (List Char × List Char)
  | [] => none
  | [_] => none
  | c :: next :: rest =>
    if c == '\x7b' && next == '#' then optionalEnd? (depth + 1) (next :: c :: before) rest
    else if c == '#' && next == '\x7d' then
      match depth with
      | 0 => some (before.reverse, rest)
      | outer + 1 => optionalEnd? outer (next :: c :: before) rest
    else optionalEnd? depth (c :: before) (next :: rest)

structure Marked where
  inner : List Char
  rest : List Char
  warnings : List Warning
  deriving DecidableEq, Repr

/-- Reads up to a closing mark; one that is missing is taken to stand at the end. -/
def readMarked (first second : Char) (text : List Char) : Marked :=
  match cutAt? first second text with
  | some (inner, rest) => ⟨inner, rest, []⟩
  | none => ⟨text, [], [.openMarker (String.ofList text)]⟩

/-- Reads a part that may be left out; its marks are taken away. -/
def readOptional (text : List Char) : Marked :=
  match optionalEnd? 0 [] text with
  | some (inner, rest) => ⟨withoutMarks inner, rest, []⟩
  | none => ⟨withoutMarks text, [], [.openOptional (String.ofList text)]⟩

theorem length_of_cutFrom {first second : Char} {text before inner rest : List Char}
    (found : cutFrom first second before text = some (inner, rest)) : rest.length ≤ text.length := by
  induction text generalizing before with
  | nil => simp [cutFrom] at found
  | cons c text ih =>
    cases text with
    | nil => simp [cutFrom] at found
    | cons next text =>
      simp only [cutFrom] at found
      split at found
      · cases found
        simp only [List.length_cons]
        omega
      · have shorter := ih found
        simp only [List.length_cons] at shorter ⊢
        omega

theorem length_of_optionalEnd? {text : List Char} {depth : Nat} {before inner rest : List Char}
    (found : optionalEnd? depth before text = some (inner, rest)) : rest.length ≤ text.length := by
  induction depth, before, text using optionalEnd?.induct with
  | case1 | case2 => simp [optionalEnd?] at found
  | case3 depth before c next text isOpen ih =>
    simp only [optionalEnd?, isOpen, if_true] at found
    have shorter := ih found
    simp only [List.length_cons]
    omega
  | case4 before c next text isOpen isClose =>
    simp only [optionalEnd?, isOpen, isClose, if_true] at found
    cases found
    simp only [List.length_cons]
    omega
  | case5 before c next text isOpen isClose outer ih =>
    simp only [optionalEnd?, isOpen, isClose, if_true] at found
    have shorter := ih found
    simp only [List.length_cons]
    omega
  | case6 depth before c next text isOpen isClose ih =>
    simp only [optionalEnd?, isOpen, isClose] at found
    have shorter := ih found
    simp only [List.length_cons] at shorter ⊢
    omega

theorem length_readMarked (first second : Char) (text : List Char) :
    (readMarked first second text).rest.length ≤ text.length := by
  unfold readMarked
  split
  · next found => exact length_of_cutFrom found
  · simp

theorem length_readOptional (text : List Char) : (readOptional text).rest.length ≤ text.length := by
  unfold readOptional
  split
  · next found => exact length_of_optionalEnd? found
  · simp

structure ChunkDraft where
  chunks : List Chunk := []
  /-- Plain text that is not yet a chunk, the last character first. -/
  plain : List Char := []
  typed : Bool := false
  warnings : List Warning := []
  deriving DecidableEq, Repr

namespace ChunkDraft

def flush (draft : ChunkDraft) : ChunkDraft :=
  if draft.plain.isEmpty then draft
  else
    { draft with
      chunks := draft.chunks ++ [⟨if draft.typed then .text else .typedText, String.ofList draft.plain.reverse⟩]
      plain := []
      typed := true }

def push (draft : ChunkDraft) (kind : ChunkKind) (text : List Char) : ChunkDraft :=
  let draft := draft.flush
  { draft with chunks := draft.chunks ++ [⟨kind, String.ofList text⟩] }

def pushMarked (draft : ChunkDraft) (kind : ChunkKind) (marked : Marked) : ChunkDraft :=
  let draft := draft.push kind marked.inner
  { draft with warnings := draft.warnings ++ marked.warnings }

def read (draft : ChunkDraft) : List Char → ChunkDraft
  | [] => draft.flush
  | '[' :: '#' :: text =>
    have := length_readMarked '#' ']' text
    read (draft.pushMarked .resultType (readMarked '#' ']' text)) (readMarked '#' ']' text).rest
  | '<' :: '#' :: text =>
    have := length_readMarked '#' '>' text
    read (draft.pushMarked .placeholder (readMarked '#' '>' text)) (readMarked '#' '>' text).rest
  | '\x7b' :: '#' :: text =>
    have := length_readOptional text
    read (draft.pushMarked .optional (readOptional text)) (readOptional text).rest
  | ',' :: ' ' :: text => read (draft.push .comma [',', ' ']) text
  | '(' :: text => read (draft.push .leftParen ['(']) text
  | ')' :: text => read (draft.push .rightParen [')']) text
  | c :: text => read { draft with plain := c :: draft.plain } text
termination_by text => text.length
decreasing_by all_goals simp only [List.length_cons]; omega

end ChunkDraft

def chunksOf (text : List Char) : List Chunk × List Warning :=
  let draft := ChunkDraft.read {} text
  (draft.chunks, draft.warnings)

end UnitCache.Clang
