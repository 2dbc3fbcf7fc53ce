import UnitCache.Proofs.Pairs
/-!
Completion strings gone through by byte offsets. A text that is kept in UTF-8 is cut at numbers of bytes, and a cut
that falls within a character, or behind the end, is an error. No such error comes up on the way through a completion
string, and what is cut is what is read character by character.
-/
namespace UnitCache.Clang

def bytes : List Char → Nat
  | [] => 0
  | c :: text => c.utf8Size + bytes text

/-- A text without its first so many bytes; none if these end within a character or are more than it has. -/
def dropBytes? : Nat → List Char → Option (List Char)
  | 0, text => some text
  | _ + 1, [] => none
  | count + 1, c :: text => if c.utf8Size ≤ count + 1 then dropBytes? (count + 1 - c.utf8Size) text else none

def takeBytes? : Nat → List Char → Option (List Char)
  | 0, _ => some []
  | _ + 1, [] => none
  | count + 1, c :: text =>
    if c.utf8Size ≤ count + 1 then (takeBytes? (count + 1 - c.utf8Size) text).map (c :: ·) else none

def placeOf? (first second : Char) : List Char → Option Nat
  | [] => none
  | c :: text =>
    if [first, second].isPrefixOf (c :: text) then some 0 else (placeOf? first second text).map (c.utf8Size + ·)

def sliceMarked? (first second : Char) (text : List Char) : Option Marked :=
  match placeOf? first second text with
  | some place => do
    let inner ← takeBytes? place text
    let rest ← dropBytes? (place + 2) text
    return ⟨inner, rest, []⟩
  | none => some ⟨text, [], [.openMarker (String.ofList text)]⟩

/-- At which byte what may be left out ends, if it ends; `place` bytes were passed, and `depth` such parts are open
around the outermost one. -/
def optionalPlace? (text : List Char) (depth place : Nat) : Option (Option Nat) :=
  if place < bytes text then
    match dropBytes? place text with
    | none => none
    | some ('\x7b' :: '#' :: _) => optionalPlace? text (depth + 1) (place + 2)
    | some ('#' :: '\x7d' :: _) =>
      match depth with
      | 0 => some (some place)
      | outer + 1 => optionalPlace? text outer (place + 2)
    | some (c :: _) => optionalPlace? text depth (place + c.utf8Size)
    | some [] => optionalPlace? text depth (place + 1)
  else some none
termination_by bytes text - place
decreasing_by all_goals (try have := c.utf8Size_pos); omega

def sliceOptional? (text : List Char) : Option Marked :=
  match optionalPlace? text 0 0 with
  | none => none
  | some (some place) => do
    let inner ← takeBytes? place text
    let rest ← dropBytes? (place + 2) text
    return ⟨withoutMarks inner, rest, []⟩
  | some none => some ⟨withoutMarks text, [], [.openOptional (String.ofList text)]⟩

section Cuts

@[simp]
theorem bytes_append (left right : List Char) : bytes (left ++ right) = bytes left + bytes right := by
  induction left with
  | nil => simp [bytes]
  | cons c left ih => simp [bytes, ih, Nat.add_assoc]

theorem dropBytes?_add (left right : List Char) (count : Nat) :
    dropBytes? (bytes left + count) (left ++ right) = dropBytes? count right := by
  induction left with
  | nil => simp [bytes]
  | cons c left ih =>
    obtain ⟨size, known⟩ : ∃ size, c.utf8Size = size + 1 := ⟨_, (Nat.succ_pred_eq_of_pos c.utf8Size_pos).symm⟩
    have more : bytes (c :: left) + count = size + bytes left + count + 1 := by simp only [bytes]; omega
    rw [more, List.cons_append, dropBytes?, if_pos (by omega)]
    have shorter : size + bytes left + count + 1 - c.utf8Size = bytes left + count := by omega
    rw [shorter, ih]

theorem dropBytes?_append (left right : List Char) : dropBytes? (bytes left) (left ++ right) = some right := by
  have cut := dropBytes?_add left right 0
  rw [Nat.add_zero] at cut
  rw [cut]
  cases right <;> rfl

theorem takeBytes?_append (left right : List Char) : takeBytes? (bytes left) (left ++ right) = some left := by
  induction left with
  | nil => cases right <;> rfl
  | cons c left ih =>
    obtain ⟨size, known⟩ : ∃ size, c.utf8Size = size + 1 := ⟨_, (Nat.succ_pred_eq_of_pos c.utf8Size_pos).symm⟩
    have more : bytes (c :: left) = size + bytes left + 1 := by simp only [bytes]; omega
    rw [more, List.cons_append, takeBytes?, if_pos (by omega)]
    have shorter : size + bytes left + 1 - c.utf8Size = bytes left := by omega
    rw [shorter, ih]
    rfl

theorem dropBytes?_behind {first second : Char} (narrow : first.utf8Size = 1 ∧ second.utf8Size = 1)
    (inner rest : List Char) : dropBytes? (bytes inner + 2) (inner ++ first :: second :: rest) = some rest := by
  have size : bytes (inner ++ [first, second]) = bytes inner + 2 := by simp [bytes, narrow.1, narrow.2]
  have cut := dropBytes?_append (inner ++ [first, second]) rest
  rwa [size, List.append_assoc] at cut

end Cuts

section Marked

variable {first second : Char}

theorem placeOf?_append (differ : first ≠ second) {inner : List Char} (free : ¬[first, second] <:+: inner)
    (rest : List Char) : placeOf? first second (inner ++ first :: second :: rest) = some (bytes inner) := by
  rw [not_infix_pair] at free
  induction inner with
  | nil => simp [placeOf?, bytes]
  | cons c inner ih =>
    have apart : [first, second].isPrefixOf (c :: (inner ++ first :: second :: rest)) = false := by
      cases inner with
      | nil => simp [List.isPrefixOf, differ.symm]
      | cons d inner =>
        have neighbours := (List.isChain_cons_cons.mp free).1
        simp only [List.cons_append, List.isPrefixOf, Bool.and_true, Bool.and_eq_false_iff, beq_eq_false_iff_ne]
        exact (not_and_or.mp neighbours).imp Ne.symm Ne.symm
    rw [List.cons_append, placeOf?, apart, ih free.tail]
    rfl

theorem placeOf?_eq_none {text : List Char} (free : ¬[first, second] <:+: text) :
    placeOf? first second text = none := by
  induction text with
  | nil => rfl
  | cons c text ih =>
    have apart : [first, second].isPrefixOf (c :: text) = false := by
      rw [Bool.eq_false_iff]
      intro starts
      exact free (List.isPrefixOf_iff_prefix.mp starts).isInfix
    rw [placeOf?, apart, ih fun inside => free (inside.trans (List.suffix_cons c text).isInfix)]
    rfl

theorem sliceMarked?_eq (differ : first ≠ second) (narrow : first.utf8Size = 1 ∧ second.utf8Size = 1)
    (text : List Char) : sliceMarked? first second text = some (readMarked first second text) := by
  rcases cutFrom_cases first second [] text with ⟨inner, rest, rfl, free, cut⟩ | ⟨free, cut⟩
  · rw [sliceMarked?, placeOf?_append differ free, readMarked, cutAt?, cut]
    simp [takeBytes?_append, dropBytes?_behind narrow]
  · rw [sliceMarked?, placeOf?_eq_none free, readMarked, cutAt?, cut]

end Marked

section Optional

theorem optionalPlace?_cons (depth : Nat) (passed : List Char) (c : Char) (text : List Char) :
    optionalPlace? (passed ++ c :: text) depth (bytes passed) =
      match c :: text with
      | '\x7b' :: '#' :: _ => optionalPlace? (passed ++ c :: text) (depth + 1) (bytes passed + 2)
      | '#' :: '\x7d' :: _ =>
        match depth with
        | 0 => some (some (bytes passed))
        | outer + 1 => optionalPlace? (passed ++ c :: text) outer (bytes passed + 2)
      | _ => optionalPlace? (passed ++ c :: text) depth (bytes passed + c.utf8Size) := by
  have room : bytes passed < bytes (passed ++ c :: text) := by
    have := c.utf8Size_pos
    simp only [bytes_append, bytes]
    omega
  rw [optionalPlace?.eq_def, if_pos room, dropBytes?_append]
  split <;> simp_all

/-- Byte by byte, what may be left out ends where it does character by character. -/
theorem optionalPlace?_cases (depth : Nat) (before left : List Char) :
    (∃ inner rest, optionalEnd? depth before left = some (inner, rest) ∧
      before.reverse ++ left = inner ++ '#' :: '\x7d' :: rest ∧
      optionalPlace? (before.reverse ++ left) depth (bytes before.reverse) = some (some (bytes inner))) ∨
    (optionalEnd? depth before left = none ∧
      optionalPlace? (before.reverse ++ left) depth (bytes before.reverse) = some none) := by
  have two (before text : List Char) (c next : Char) (narrow : c.utf8Size = 1 ∧ next.utf8Size = 1) :
      (next :: c :: before).reverse ++ text = before.reverse ++ c :: next :: text ∧
        bytes (next :: c :: before).reverse = bytes before.reverse + 2 := by
    simp [bytes, narrow.1, narrow.2]
  induction depth, before, left using optionalEnd?.induct with
  | case1 depth before =>
    refine .inr ⟨rfl, ?_⟩
    rw [optionalPlace?.eq_def, if_neg (by simp)]
  | case2 depth before c =>
    refine .inr ⟨rfl, ?_⟩
    have ended : bytes before.reverse + c.utf8Size = bytes (before.reverse ++ [c]) := by simp [bytes]
    rw [optionalPlace?_cons]
    split
    next same => cases same
    next same => cases same
    next => rw [ended, optionalPlace?.eq_def, if_neg (Nat.lt_irrefl _)]
  | case3 depth before c next text isOpen ih =>
    obtain ⟨rfl, rfl⟩ : c = '\x7b' ∧ next = '#' := by simpa using isOpen
    obtain ⟨same, size⟩ := two before text '\x7b' '#' ⟨rfl, rfl⟩
    rw [same, size] at ih
    rw [optionalPlace?_cons]
    exact ih
  | case4 before c next text isOpen isClose =>
    obtain ⟨rfl, rfl⟩ : c = '#' ∧ next = '\x7d' := by simpa using isClose
    refine .inl ⟨before.reverse, text, rfl, rfl, ?_⟩
    rw [optionalPlace?_cons]
    rfl
  | case5 before c next text isOpen isClose outer ih =>
    obtain ⟨rfl, rfl⟩ : c = '#' ∧ next = '\x7d' := by simpa using isClose
    obtain ⟨same, size⟩ := two before text '#' '\x7d' ⟨rfl, rfl⟩
    rw [same, size] at ih
    rw [optionalPlace?_cons]
    exact ih
  | case6 depth before c next text isOpen isClose ih =>
    have same : (c :: before).reverse ++ next :: text = before.reverse ++ c :: next :: text := by simp
    have size : bytes (c :: before).reverse = bytes before.reverse + c.utf8Size := by simp [bytes]
    rw [same, size] at ih
    have goes_on : optionalEnd? depth before (c :: next :: text) = optionalEnd? depth (c :: before) (next :: text) := by
      simp [optionalEnd?, isOpen, isClose]
    rw [optionalPlace?_cons, goes_on]
    split
    next open_here => cases open_here; simp at isOpen
    next close_here => cases close_here; simp at isClose
    next => exact ih

theorem sliceOptional?_eq (text : List Char) : sliceOptional? text = some (readOptional text) := by
  rcases optionalPlace?_cases 0 [] text with ⟨inner, rest, cut, split, place⟩ | ⟨cut, place⟩
  · have place : optionalPlace? text 0 0 = some (some (bytes inner)) := place
    have split : text = inner ++ '#' :: '\x7d' :: rest := split
    have rest_cut : dropBytes? (bytes inner + 2) (inner ++ '#' :: '\x7d' :: rest) = some rest :=
      dropBytes?_behind ⟨rfl, rfl⟩ inner rest
    rw [sliceOptional?, place, readOptional, cut, split]
    simp [takeBytes?_append, rest_cut]
  · have place : optionalPlace? text 0 0 = some none := place
    rw [sliceOptional?, place, readOptional, cut]

end Optional

def slicePart? (draft : ChunkDraft) (text : List Char) : Option (ChunkDraft × List Char) :=
  match text with
  | [] => some (draft, [])
  | '[' :: '#' :: rest =>
    (sliceMarked? '#' ']' rest).map fun marked => (draft.pushMarked .resultType marked, marked.rest)
  | '<' :: '#' :: rest =>
    (sliceMarked? '#' '>' rest).map fun marked => (draft.pushMarked .placeholder marked, marked.rest)
  | '\x7b' :: '#' :: rest =>
    (sliceOptional? rest).map fun marked => (draft.pushMarked .optional marked, marked.rest)
  | ',' :: ' ' :: _ => (dropBytes? 2 text).map (draft.push .comma [',', ' '], ·)
  | '(' :: _ => (dropBytes? 1 text).map (draft.push .leftParen ['('], ·)
  | ')' :: _ => (dropBytes? 1 text).map (draft.push .rightParen [')'], ·)
  | c :: _ => (dropBytes? c.utf8Size text).map ({ draft with plain := c :: draft.plain }, ·)

theorem slicePart?_cons (draft : ChunkDraft) (c : Char) (text : List Char) :
    ∃ next rest, slicePart? draft (c :: text) = some (next, rest) ∧ rest.length ≤ text.length ∧
      draft.read (c :: text) = next.read rest := by
  have behind (passed rest : List Char) : dropBytes? (bytes passed) (passed ++ rest) = some rest :=
    dropBytes?_append passed rest
  unfold slicePart?
  split
  next same => cases same
  next rest same =>
    cases same
    rw [sliceMarked?_eq (by decide) ⟨rfl, rfl⟩, ChunkDraft.read]
    exact ⟨_, _, rfl, (length_readMarked ..).trans (Nat.le_succ _), rfl⟩
  next rest same =>
    cases same
    rw [sliceMarked?_eq (by decide) ⟨rfl, rfl⟩, ChunkDraft.read]
    exact ⟨_, _, rfl, (length_readMarked ..).trans (Nat.le_succ _), rfl⟩
  next rest same =>
    cases same
    rw [sliceOptional?_eq, ChunkDraft.read]
    exact ⟨_, _, rfl, (length_readOptional _).trans (Nat.le_succ _), rfl⟩
  next rest same =>
    cases same
    have cut : dropBytes? 2 (',' :: ' ' :: rest) = some rest := behind [',', ' '] rest
    rw [cut, ChunkDraft.read]
    exact ⟨_, rest, rfl, Nat.le_succ _, rfl⟩
  next rest same =>
    cases same
    have cut : dropBytes? 1 ('(' :: text) = some text := behind ['('] text
    rw [cut, ChunkDraft.read]
    exact ⟨_, text, rfl, Nat.le_refl _, rfl⟩
  next rest same =>
    cases same
    have cut : dropBytes? 1 (')' :: text) = some text := behind [')'] text
    rw [cut, ChunkDraft.read]
    exact ⟨_, text, rfl, Nat.le_refl _, rfl⟩
  next same =>
    cases same
    have cut : dropBytes? c.utf8Size (c :: text) = some text := by simpa [bytes] using behind [c] text
    rw [cut]
    refine ⟨_, text, rfl, Nat.le_refl _, ?_⟩
    rw [ChunkDraft.read] <;> assumption

theorem slicePart?_shorter {draft next : ChunkDraft} {c : Char} {text rest : List Char}
    (found : slicePart? draft (c :: text) = some (next, rest)) : rest.length < (c :: text).length := by
  obtain ⟨_, _, known, short, _⟩ := slicePart?_cons draft c text
  cases found.symm.trans known
  exact Nat.lt_succ_of_le short

/-- Goes through a completion string by byte offsets; none if one of them falls within a character or behind the
end. -/
def readSliced? (draft : ChunkDraft) : List Char → Option ChunkDraft
  | [] => some draft.flush
  | c :: text =>
    match found : slicePart? draft (c :: text) with
    | none => none
    | some (next, rest) =>
      have := slicePart?_shorter found
      readSliced? next rest
termination_by text => text.length
decreasing_by exact this

/-- A completion string is gone through by byte offsets without an error, and read as it is character by character. -/
theorem readSliced?_eq (draft : ChunkDraft) (text : List Char) : readSliced? draft text = some (draft.read text) := by
  induction length : text.length using Nat.strong_induction_on generalizing draft text with
  | _ size ih =>
    cases text with
    | nil => rw [readSliced?, ChunkDraft.read]
    | cons c text =>
      obtain ⟨next, rest, found, short, same⟩ := slicePart?_cons draft c text
      have shorter : rest.length < size := length ▸ Nat.lt_succ_of_le short
      rw [readSliced?, same, ← ih _ shorter next rest rfl]
      split
      next missing => rw [found] at missing; cases missing
      next known => rw [found] at known; cases known; rfl

end UnitCache.Clang
