import UnitCache.Proofs.CompletionStrings
/-!
What may be left out of a completion, and may in turn have parts that may be left out, to any depth. It is read up to
its own end, and not up to that of a part; and what is left of it without the marks is all its plain text.
-/
namespace UnitCache.Clang

def openers : List Char := ['\x7b', '<', '[']

def closers : List Char := ['\x7d', '>', ']']

def marks : List (Char × Char) :=
  [('\x7b', '#'), ('#', '\x7d'), ('<', '#'), ('#', '>'), ('[', '#'), ('#', ']')]

/-- A text that no mark can be read into, whatever stands around it. -/
structure Plain (text : List Char) : Prop where
  bare : '#' ∉ text
  starts : ∀ c ∈ text.head?, c ∉ closers
  ends : ∀ c ∈ text.getLast?, c ∉ openers

instance (text : List Char) : Decidable (Plain text) :=
  let _ : Decidable (∀ c ∈ text.head?, c ∉ closers) := text.head?.decidableForallMem
  let _ : Decidable (∀ c ∈ text.getLast?, c ∉ openers) := text.getLast?.decidableForallMem
  decidable_of_iff ('#' ∉ text ∧ (∀ c ∈ text.head?, c ∉ closers) ∧ ∀ c ∈ text.getLast?, c ∉ openers)
    ⟨fun ⟨bare, starts, ends⟩ => ⟨bare, starts, ends⟩, fun plain => ⟨plain.bare, plain.starts, plain.ends⟩⟩

inductive Token where
  | plain (text : List Char)
  | mark (first second : Char)
  deriving DecidableEq

namespace Token

def chars : Token → List Char
  | .plain text => text
  | .mark first second => [first, second]

def plain? : Token → Option (List Char)
  | .plain text => some text
  | .mark .. => none

/-- Whether a token can be told from those around it. -/
def Clear : Token → Prop
  | .plain text => Plain text
  | .mark first second => (first, second) ∈ marks

end Token

inductive Part where
  | literal (text : List Char)
  | placeholder (text : List Char)
  | resultType (text : List Char)
  | optional (parts : List Part)

mutual

def Part.tokens : Part → List Token
  | .literal text => [.plain text]
  | .placeholder text => [.mark '<' '#', .plain text, .mark '#' '>']
  | .resultType text => [.mark '[' '#', .plain text, .mark '#' ']']
  | .optional parts => .mark '\x7b' '#' :: (tokensOf parts ++ [.mark '#' '\x7d'])

def tokensOf : List Part → List Token
  | [] => []
  | part :: rest => part.tokens ++ tokensOf rest

end

def printedTokens (tokens : List Token) : List Char := tokens.flatMap Token.chars

def printedParts (parts : List Part) : List Char := printedTokens (tokensOf parts)

def textsOf (parts : List Part) : List (List Char) := (tokensOf parts).filterMap Token.plain?

section Tokens

variable {first second : Char} {head tail : List Char} {token : Token} {tokens : List Token}

theorem cases_of_mark (known : (first, second) ∈ marks) :
    first ∈ openers ∧ second = '#' ∨ first = '#' ∧ second ∈ closers := by
  have all : ∀ pair ∈ marks, pair.1 ∈ openers ∧ pair.2 = '#' ∨ pair.1 = '#' ∧ pair.2 ∈ closers := by decide
  exact all _ known

theorem not_closer_of_mark (known : (first, second) ∈ marks) : first ∉ closers := by
  have all : ∀ pair ∈ marks, pair.1 ∉ closers := by decide
  exact all _ known

theorem not_opener_of_mark (known : (first, second) ∈ marks) : second ∉ openers := by
  have all : ∀ pair ∈ marks, pair.2 ∉ openers := by decide
  exact all _ known

theorem Token.Clear.starts (clear : token.Clear) : ∀ c ∈ token.chars.head?, c ∉ closers := by
  cases token with
  | plain text =>
    have plain : Plain text := clear
    exact plain.starts
  | mark first second =>
    rintro c ⟨⟩
    exact not_closer_of_mark clear

theorem Token.Clear.ends (clear : token.Clear) : ∀ c ∈ token.chars.getLast?, c ∉ openers := by
  cases token with
  | plain text =>
    have plain : Plain text := clear
    exact plain.ends
  | mark first second =>
    rintro c ⟨⟩
    exact not_opener_of_mark clear

theorem starts_printedTokens (clear : ∀ token ∈ tokens, token.Clear) (behind : ∀ c ∈ tail.head?, c ∉ closers) :
    ∀ c ∈ (printedTokens tokens ++ tail).head?, c ∉ closers := by
  induction tokens with
  | nil => exact behind
  | cons token tokens ih =>
    have rest := ih fun other inside => clear other (.tail _ inside)
    rw [printedTokens, List.flatMap_cons, List.append_assoc, ← printedTokens, List.head?_append]
    cases starts : token.chars.head? with
    | none => exact rest
    | some c =>
      rintro _ ⟨⟩
      exact (clear token List.mem_cons_self).starts c starts

/-- Whether two characters stand nowhere side by side in a text, nor where another one goes on behind it. -/
def Apart (first second : Char) (head tail : List Char) : Prop :=
  (head ++ tail.take 1).IsChain fun left right => ¬(left = first ∧ right = second)

theorem Apart.of_cons {c : Char} (apart : Apart first second (c :: head) tail) : Apart first second head tail :=
  List.IsChain.tail apart

theorem Apart.neighbours {c next : Char} {text : List Char} (apart : Apart first second (c :: head) tail)
    (goes_on : head ++ tail = next :: text) : ¬(c = first ∧ next = second) := by
  rw [Apart] at apart
  cases head with
  | nil =>
    obtain rfl : tail = next :: text := goes_on
    exact (List.isChain_cons_cons.mp apart).1
  | cons d head =>
    cases goes_on
    exact (List.isChain_cons_cons.mp apart).1

/-- No mark can be read in a token, nor where another one starts behind it, unless the token is this mark. -/
theorem apart_of_clear (clear : token.Clear) (behind : ∀ c ∈ tail.head?, c ∉ closers)
    (known : (first, second) ∈ marks) (other : token ≠ .mark first second) : Apart first second token.chars tail := by
  refine List.IsChain.append ?_ (by cases tail <;> simp) fun left ends right starts => ?_
  · cases token with
    | plain text =>
      have plain : Plain text := clear
      have bare := plain.bare
      rw [← not_infix_pair]
      intro inside
      rcases cases_of_mark known with ⟨_, rfl⟩ | ⟨rfl, _⟩
      · exact bare (inside.subset (by simp))
      · exact bare (inside.subset (by simp))
    | mark left right => simpa [Token.chars] using other
  · rintro ⟨rfl, rfl⟩
    have starts : right ∈ tail.head? := by cases tail <;> exact starts
    rcases cases_of_mark known with ⟨opens, _⟩ | ⟨_, closes⟩
    · exact clear.ends left ends opens
    · exact behind right starts closes

end Tokens

section Stripping

variable {first second : Char} {head tail : List Char} {tokens : List Token}

theorem without_append (apart : Apart first second head tail) :
    without first second (head ++ tail) = head ++ without first second tail := by
  induction head with
  | nil => rfl
  | cons c head ih =>
    rw [List.cons_append, List.cons_append, ← ih apart.of_cons]
    cases goes_on : head ++ tail with
    | nil => rfl
    | cons next text =>
      have differ : ¬(c == first && next == second) = true := by simpa using apart.neighbours goes_on
      rw [without, if_neg differ]

theorem without_printedTokens (clear : ∀ token ∈ tokens, token.Clear) (known : (first, second) ∈ marks) :
    without first second (printedTokens tokens) =
      printedTokens (tokens.filter fun token => token ≠ .mark first second) := by
  induction tokens with
  | nil => rfl
  | cons token tokens ih =>
    have later : ∀ other ∈ tokens, other.Clear := fun other inside => clear other (.tail _ inside)
    have rest := ih later
    rw [printedTokens, List.flatMap_cons, ← printedTokens]
    by_cases same : token = .mark first second
    · subst same
      simpa [Token.chars, without] using rest
    · have behind := starts_printedTokens later (fun c (inside : c ∈ [].head?) => nomatch inside)
      rw [List.append_nil] at behind
      have apart := apart_of_clear (clear token List.mem_cons_self) behind known same
      rw [without_append apart, rest]
      simp [same, printedTokens]

theorem foldl_without (taken : List (Char × Char)) (known : ∀ pair ∈ taken, pair ∈ marks)
    (clear : ∀ token ∈ tokens, token.Clear) :
    taken.foldl (fun text pair => without pair.1 pair.2 text) (printedTokens tokens) =
      printedTokens (tokens.filter fun token => taken.all fun pair => token ≠ .mark pair.1 pair.2) := by
  induction taken generalizing tokens with
  | nil => simp
  | cons pair taken ih =>
    have left : ∀ token ∈ tokens.filter (fun token => token ≠ .mark pair.1 pair.2), token.Clear :=
      fun token inside => clear token (List.mem_of_mem_filter inside)
    rw [List.foldl_cons, without_printedTokens clear (known pair List.mem_cons_self),
      ih (fun other inside => known other (.tail _ inside)) left, List.filter_filter]
    congr 2
    funext token
    rw [List.all_cons, Bool.and_comm]

theorem withoutMarks_printedTokens (clear : ∀ token ∈ tokens, token.Clear) :
    withoutMarks (printedTokens tokens) = (tokens.filterMap Token.plain?).flatten := by
  have left : withoutMarks (printedTokens tokens) = _ := foldl_without marks (fun _ => id) clear
  rw [left]
  clear left
  induction tokens with
  | nil => rfl
  | cons token tokens ih =>
    have rest := ih fun other inside => clear other (.tail _ inside)
    cases token with
    | plain text => simpa [printedTokens, Token.plain?, Token.chars] using rest
    | mark first second =>
      have known : (first, second) ∈ marks := clear _ List.mem_cons_self
      have gone : marks.all (fun pair => Token.mark first second ≠ .mark pair.1 pair.2) = false := by
        rw [List.all_eq_false]
        exact ⟨_, known, by simp⟩
      rw [List.filter_cons_of_neg (by rw [gone]; exact Bool.false_ne_true), rest]
      rfl

end Stripping

section Scanning

variable {depth : Nat} {before head tail : List Char}

theorem optionalEnd?_append (opens : Apart '\x7b' '#' head tail) (closes : Apart '#' '\x7d' head tail) :
    optionalEnd? depth before (head ++ tail) = optionalEnd? depth (head.reverse ++ before) tail := by
  induction head generalizing before with
  | nil => rfl
  | cons c head ih =>
    rw [List.reverse_cons, List.append_assoc, List.singleton_append, ← ih opens.of_cons closes.of_cons, List.cons_append]
    cases goes_on : head ++ tail with
    | nil => rfl
    | cons next text =>
      have no_start : ¬(c == '\x7b' && next == '#') = true := by simpa using opens.neighbours goes_on
      have no_end : ¬(c == '#' && next == '\x7d') = true := by simpa using closes.neighbours goes_on
      simp [optionalEnd?, no_start, no_end]

theorem optionalEnd?_tokens {tokens : List Token} (clear : ∀ token ∈ tokens, token.Clear)
    (neither : ∀ token ∈ tokens, token ≠ .mark '\x7b' '#' ∧ token ≠ .mark '#' '\x7d')
    (behind : ∀ c ∈ tail.head?, c ∉ closers) :
    optionalEnd? depth before (printedTokens tokens ++ tail) =
      optionalEnd? depth ((printedTokens tokens).reverse ++ before) tail := by
  induction tokens generalizing before with
  | nil => rfl
  | cons token tokens ih =>
    have own := clear token List.mem_cons_self
    have later : ∀ other ∈ tokens, other.Clear := fun other inside => clear other (.tail _ inside)
    have starts := starts_printedTokens later behind
    obtain ⟨no_start, no_end⟩ := neither token List.mem_cons_self
    rw [printedTokens, List.flatMap_cons, List.append_assoc, ← printedTokens,
      optionalEnd?_append (apart_of_clear own starts (by decide) no_start) (apart_of_clear own starts (by decide) no_end),
      ih later fun other inside => neither other (.tail _ inside)]
    simp

mutual

theorem optionalEnd?_part (part : Part) (clear : ∀ token ∈ part.tokens, token.Clear) {depth : Nat}
    {before tail : List Char} (behind : ∀ c ∈ tail.head?, c ∉ closers) :
    optionalEnd? depth before (printedTokens part.tokens ++ tail) =
      optionalEnd? depth ((printedTokens part.tokens).reverse ++ before) tail := by
  cases part with
  | literal text | placeholder text | resultType text =>
    exact optionalEnd?_tokens clear (by simp [Part.tokens]) behind
  | optional parts =>
    have inner : optionalEnd? (depth + 1) ('#' :: '\x7b' :: before) (printedParts parts ++ '#' :: '\x7d' :: tail) =
        optionalEnd? (depth + 1) ((printedParts parts).reverse ++ '#' :: '\x7b' :: before) ('#' :: '\x7d' :: tail) :=
      optionalEnd?_parts parts (fun token inside => clear token (by simp [Part.tokens, inside])) (by simp [closers])
    have whole : printedTokens (Part.optional parts).tokens = '\x7b' :: '#' :: (printedParts parts ++ ['#', '\x7d']) := by
      simp [Part.tokens, printedTokens, printedParts, Token.chars]
    have opened (text : List Char) : optionalEnd? depth before ('\x7b' :: '#' :: text) =
      optionalEnd? (depth + 1) ('#' :: '\x7b' :: before) text := rfl
    have closed (passed : List Char) : optionalEnd? (depth + 1) passed ('#' :: '\x7d' :: tail) =
      optionalEnd? depth ('\x7d' :: '#' :: passed) tail := rfl
    rw [whole, List.cons_append, List.cons_append, List.append_assoc, opened]
    exact inner.trans (by rw [closed]; simp)

theorem optionalEnd?_parts (parts : List Part) (clear : ∀ token ∈ tokensOf parts, token.Clear) {depth : Nat}
    {before tail : List Char} (behind : ∀ c ∈ tail.head?, c ∉ closers) :
    optionalEnd? depth before (printedParts parts ++ tail) =
      optionalEnd? depth ((printedParts parts).reverse ++ before) tail := by
  cases parts with
  | nil => rfl
  | cons part rest =>
    have later : ∀ token ∈ tokensOf rest, token.Clear := fun token inside => clear token (by simp [tokensOf, inside])
    have starts := starts_printedTokens later behind
    have first : optionalEnd? depth before (printedTokens part.tokens ++ (printedParts rest ++ tail)) =
        optionalEnd? depth ((printedTokens part.tokens).reverse ++ before) (printedParts rest ++ tail) :=
      optionalEnd?_part part (fun token inside => clear token (by simp [tokensOf, inside])) starts
    have whole : printedParts (part :: rest) = printedTokens part.tokens ++ printedParts rest := by
      simp [printedParts, tokensOf, printedTokens]
    rw [whole, List.append_assoc, first, optionalEnd?_parts rest later behind]
    simp

end

variable {parts : List Part}

mutual

theorem mark_of_part (part : Part) {first second : Char} (inside : .mark first second ∈ part.tokens) :
    (first, second) ∈ marks := by
  cases part with
  | literal text => simp [Part.tokens] at inside
  | placeholder text | resultType text =>
    simp only [Part.tokens, List.mem_cons, Token.mark.injEq, reduceCtorEq, List.not_mem_nil, false_or, or_false] at inside
    rcases inside with ⟨rfl, rfl⟩ | ⟨rfl, rfl⟩ <;> decide
  | optional parts =>
    simp only [Part.tokens, List.mem_cons, List.mem_append, Token.mark.injEq, List.not_mem_nil, or_false] at inside
    rcases inside with ⟨rfl, rfl⟩ | inside | ⟨rfl, rfl⟩
    · decide
    · exact mark_of_parts parts inside
    · decide

theorem mark_of_parts (parts : List Part) {first second : Char} (inside : .mark first second ∈ tokensOf parts) :
    (first, second) ∈ marks := by
  cases parts with
  | nil => cases inside
  | cons part rest =>
    rcases List.mem_append.mp inside with inside | inside
    · exact mark_of_part part inside
    · exact mark_of_parts rest inside

end

theorem clear_tokensOf (plain : ∀ text ∈ textsOf parts, Plain text) : ∀ token ∈ tokensOf parts, token.Clear := by
  intro token inside
  cases token with
  | plain text => exact plain text (List.mem_filterMap.mpr ⟨_, inside, rfl⟩)
  | mark first second => exact mark_of_parts parts inside

theorem withoutMarks_printedParts (plain : ∀ text ∈ textsOf parts, Plain text) :
    withoutMarks (printedParts parts) = (textsOf parts).flatten :=
  withoutMarks_printedTokens (clear_tokensOf plain)

/-- What may be left out is read up to its own end, and its marks are taken away. -/
theorem readOptional_closed (plain : ∀ text ∈ textsOf parts, Plain text) (rest : List Char) :
    readOptional (printedParts parts ++ '#' :: '\x7d' :: rest) = ⟨(textsOf parts).flatten, rest, []⟩ := by
  have ends : optionalEnd? 0 [] (printedParts parts ++ '#' :: '\x7d' :: rest) = some (printedParts parts, rest) := by
    rw [optionalEnd?_parts parts (clear_tokensOf plain) (by simp [closers])]
    simp [optionalEnd?]
  rw [readOptional, ends, ← withoutMarks_printedParts plain]

theorem readOptional_open (plain : ∀ text ∈ textsOf parts, Plain text) :
    readOptional (printedParts parts) =
      ⟨(textsOf parts).flatten, [], [.openOptional (String.ofList (printedParts parts))]⟩ := by
  have endless : optionalEnd? 0 [] (printedParts parts) = none := by
    have passed : optionalEnd? 0 [] (printedParts parts ++ []) = none :=
      optionalEnd?_parts parts (clear_tokensOf plain) (by simp)
    rwa [List.append_nil] at passed
  rw [readOptional, endless, ← withoutMarks_printedParts plain]

end Scanning

section Behind

variable {draft : ChunkDraft} {chunks : List Chunk} {typed : Bool} {warnings : List Warning}

/-- A chunk as it is read behind others; if there is plain text among them, none is to be typed any more. -/
def retyped (typed : Bool) (chunk : Chunk) : Chunk :=
  if typed && chunk.kind == .typedText then { chunk with kind := .text } else chunk

def ChunkDraft.behind (draft : ChunkDraft) (chunks : List Chunk) (typed : Bool) (warnings : List Warning) : ChunkDraft :=
  { draft with
    chunks := chunks ++ draft.chunks.map (retyped typed)
    typed := typed || draft.typed
    warnings := warnings ++ draft.warnings }

theorem flush_behind : (draft.behind chunks typed warnings).flush = draft.flush.behind chunks typed warnings := by
  obtain ⟨own, plain, own_typed, own_warnings⟩ := draft
  cases plain <;> cases typed <;> cases own_typed <;> simp [ChunkDraft.flush, ChunkDraft.behind, retyped]

theorem push_behind {kind : ChunkKind} (special : kind ≠ .typedText) (text : List Char) :
    (draft.behind chunks typed warnings).push kind text = (draft.push kind text).behind chunks typed warnings := by
  rw [ChunkDraft.push, flush_behind, ChunkDraft.push]
  simp [ChunkDraft.behind, retyped, special]

theorem pushMarked_behind {kind : ChunkKind} (special : kind ≠ .typedText) (marked : Marked) :
    (draft.behind chunks typed warnings).pushMarked kind marked =
      (draft.pushMarked kind marked).behind chunks typed warnings := by
  rw [ChunkDraft.pushMarked, push_behind special, ChunkDraft.pushMarked]
  simp [ChunkDraft.behind]

theorem not_stop_of_other {c : Char} {text : List Char} (square : ∀ behind, c = '[' → text = '#' :: behind → False)
    (angle : ∀ behind, c = '<' → text = '#' :: behind → False)
    (brace : ∀ behind, c = '\x7b' → text = '#' :: behind → False)
    (comma : ∀ behind, c = ',' → text = ' ' :: behind → False) (left : c = '(' → False) (right : c = ')' → False) :
    ¬Stop (c :: text) := by
  intro stop
  cases stop with
  | resultType behind => exact square behind rfl rfl
  | placeholder behind => exact angle behind rfl rfl
  | optional behind => exact brace behind rfl rfl
  | comma behind => exact comma behind rfl rfl
  | leftParen => exact left rfl
  | rightParen => exact right rfl

theorem not_stop_append {c : Char} {text : List Char} (goes_on : ¬Stop (c :: text)) (tail : List Char) :
    ¬Stop (c :: (text ++ '\x7b' :: tail)) := by
  intro stop
  cases text with
  | nil =>
    have stop : Stop (c :: '\x7b' :: tail) := stop
    cases stop with
    | leftParen => exact goes_on (.leftParen _)
    | rightParen => exact goes_on (.rightParen _)
  | cons d text =>
    have stop : Stop (c :: d :: (text ++ '\x7b' :: tail)) := stop
    cases stop <;> exact goes_on (by constructor)

/-- A text is read behind chunks as it is read alone, but for what is to be typed. -/
theorem read_behind (text : List Char) :
    (draft.behind chunks typed warnings).read text = (draft.read text).behind chunks typed warnings := by
  induction draft, text using ChunkDraft.read.induct with
  | case1 draft => rw [ChunkDraft.read, ChunkDraft.read, flush_behind]
  | case2 draft text _ ih | case3 draft text _ ih | case4 draft text _ ih =>
    rw [ChunkDraft.read, ChunkDraft.read, pushMarked_behind (by decide), ih]
  | case5 draft text ih | case6 draft text ih | case7 draft text ih =>
    rw [ChunkDraft.read, ChunkDraft.read, push_behind (by decide), ih]
  | case8 draft c text square angle brace comma left right ih =>
    have goes_on := not_stop_of_other square angle brace comma left right
    rw [read_plain_char goes_on, read_plain_char goes_on, ← ih]
    rfl

theorem warnings_flush : draft.flush.warnings = draft.warnings := by
  unfold ChunkDraft.flush
  split <;> rfl

theorem warnings_push (kind : ChunkKind) (text : List Char) : (draft.push kind text).warnings = draft.warnings :=
  warnings_flush

theorem warnings_pushMarked (kind : ChunkKind) (marked : Marked) :
    (draft.pushMarked kind marked).warnings = draft.warnings ++ marked.warnings := by
  rw [ChunkDraft.pushMarked, warnings_push]

theorem read_warns (text : List Char) : draft.warnings <+: (draft.read text).warnings := by
  induction draft, text using ChunkDraft.read.induct with
  | case1 draft => rw [ChunkDraft.read, warnings_flush]
  | case2 draft text _ ih | case3 draft text _ ih | case4 draft text _ ih =>
    rw [ChunkDraft.read]
    rw [warnings_pushMarked] at ih
    exact (List.prefix_append ..).trans ih
  | case5 draft text ih | case6 draft text ih | case7 draft text ih =>
    rw [ChunkDraft.read]
    rwa [warnings_push] at ih
  | case8 draft c text _ _ _ _ _ _ ih => rw [ChunkDraft.read] <;> assumption

theorem closed_of_quiet {kind : ChunkKind} {marked : Marked} {text : List Char}
    (quiet : ((draft.pushMarked kind marked).read text).warnings = draft.warnings) : marked.warnings = [] := by
  have grown : (draft.pushMarked kind marked).warnings <+: ((draft.pushMarked kind marked).read text).warnings :=
    read_warns text
  have kept := grown.length_le
  rw [quiet, warnings_pushMarked, List.length_append] at kept
  exact List.length_eq_zero_iff.mp (by omega)

theorem readMarked_append {first second : Char} (differ : first ≠ second) {text : List Char}
    (closed : (readMarked first second text).warnings = []) (tail : List Char) :
    readMarked first second (text ++ tail) =
      { readMarked first second text with rest := (readMarked first second text).rest ++ tail } := by
  rcases cutFrom_cases first second [] text with ⟨inner, rest, rfl, free, _⟩ | ⟨free, _⟩
  · have longer := cutAt?_append differ free (rest ++ tail)
    rw [List.append_assoc, List.cons_append, List.cons_append, readMarked, readMarked, longer, cutAt?_append differ free]
  · rw [readMarked, cutAt?_eq_none free] at closed
    cases closed

theorem optionalEnd?_longer {depth : Nat} {before text inner rest : List Char}
    (found : optionalEnd? depth before text = some (inner, rest)) (tail : List Char) :
    optionalEnd? depth before (text ++ tail) = some (inner, rest ++ tail) := by
  induction depth, before, text using optionalEnd?.induct with
  | case1 | case2 => simp [optionalEnd?] at found
  | case3 depth before c next text isOpen ih =>
    simp only [optionalEnd?, isOpen, if_true, List.cons_append] at found ⊢
    exact ih found
  | case4 before c next text isOpen isClose =>
    simp only [optionalEnd?, isOpen, isClose, if_true, List.cons_append] at found ⊢
    cases found
    rfl
  | case5 before c next text isOpen isClose outer ih =>
    simp only [optionalEnd?, isOpen, isClose, if_true, List.cons_append] at found ⊢
    exact ih found
  | case6 depth before c next text isOpen isClose ih =>
    simp only [optionalEnd?, isOpen, isClose, List.cons_append] at found ih ⊢
    exact ih found

theorem readOptional_append {text : List Char} (closed : (readOptional text).warnings = []) (tail : List Char) :
    readOptional (text ++ tail) = { readOptional text with rest := (readOptional text).rest ++ tail } := by
  cases ends : optionalEnd? 0 [] text with
  | some cut => rw [readOptional, readOptional, optionalEnd?_longer ends, ends]
  | none =>
    rw [readOptional, ends] at closed
    cases closed

/-- If all marks of a text are closed, what may be left out behind it is read behind what the text is read as. -/
theorem read_append {before left_out : List Char} (quiet : (draft.read before).warnings = draft.warnings)
    (opens : ∃ tail, left_out = '\x7b' :: '#' :: tail) :
    draft.read (before ++ left_out) = (draft.read before).read left_out := by
  obtain ⟨tail, starts⟩ := opens
  induction draft, before using ChunkDraft.read.induct with
  | case1 draft =>
    rw [ChunkDraft.read, read_flush (starts ▸ .optional tail)]
    rfl
  | case2 draft text _ ih | case3 draft text _ ih =>
    rw [ChunkDraft.read] at quiet
    have closed := closed_of_quiet quiet
    rw [List.cons_append, List.cons_append, ChunkDraft.read, ChunkDraft.read, readMarked_append (by decide) closed]
    exact ih (by rw [quiet, warnings_pushMarked, closed, List.append_nil])
  | case4 draft text _ ih =>
    rw [ChunkDraft.read] at quiet
    have closed := closed_of_quiet quiet
    rw [List.cons_append, List.cons_append, ChunkDraft.read, ChunkDraft.read, readOptional_append closed]
    exact ih (by rw [quiet, warnings_pushMarked, closed, List.append_nil])
  | case5 draft text ih | case6 draft text ih | case7 draft text ih =>
    rw [ChunkDraft.read] at quiet
    simp only [List.cons_append]
    rw [ChunkDraft.read, ChunkDraft.read]
    exact ih (by rw [quiet, warnings_push])
  | case8 draft c text square angle brace comma left right ih =>
    have goes_on := not_stop_of_other square angle brace comma left right
    rw [read_plain_char goes_on] at quiet ⊢
    rw [List.cons_append, read_plain_char (starts ▸ not_stop_append goes_on _)]
    exact ih quiet

theorem plain_flush : draft.flush.plain = [] := by
  unfold ChunkDraft.flush
  cases empty : draft.plain.isEmpty
  · rfl
  · simpa using empty

theorem typed_flush (known : draft.typed = draft.chunks.any isPlain) :
    draft.flush.typed = draft.flush.chunks.any isPlain := by
  unfold ChunkDraft.flush
  split
  · exact known
  · cases draft.typed <;> simp [isPlain]

theorem typed_push {kind : ChunkKind} (special : ∀ text, isPlain ⟨kind, text⟩ = false) (text : List Char)
    (known : draft.typed = draft.chunks.any isPlain) :
    (draft.push kind text).typed = (draft.push kind text).chunks.any isPlain := by
  rw [ChunkDraft.push]
  simpa [special] using typed_flush known

theorem typed_read (text : List Char) (known : draft.typed = draft.chunks.any isPlain) :
    (draft.read text).plain = [] ∧ (draft.read text).typed = (draft.read text).chunks.any isPlain := by
  induction draft, text using ChunkDraft.read.induct with
  | case1 draft =>
    rw [ChunkDraft.read]
    exact ⟨plain_flush, typed_flush known⟩
  | case2 draft text _ ih | case3 draft text _ ih | case4 draft text _ ih =>
    rw [ChunkDraft.read]
    exact ih (typed_push (fun _ => rfl) _ known)
  | case5 draft text ih | case6 draft text ih | case7 draft text ih =>
    rw [ChunkDraft.read]
    exact ih (typed_push (fun _ => rfl) _ known)
  | case8 draft c text _ _ _ _ _ _ ih => rw [ChunkDraft.read] <;> first | assumption | exact ih known

/-- What may be left out makes one chunk, and what stands behind it is read as it is alone, but for what is to be
typed. -/
theorem chunksOf_optional {before : List Char} (quiet : (chunksOf before).2 = []) (left_out : List Char) :
    chunksOf (before ++ '\x7b' :: '#' :: left_out) =
      ((chunksOf before).1 ++ ⟨.optional, String.ofList (readOptional left_out).inner⟩ ::
          (chunksOf (readOptional left_out).rest).1.map (retyped ((chunksOf before).1.any isPlain)),
        (readOptional left_out).warnings ++ (chunksOf (readOptional left_out).rest).2) := by
  have fresh : ({} : ChunkDraft).typed = ({} : ChunkDraft).chunks.any isPlain := rfl
  obtain ⟨plain, typed⟩ := typed_read before fresh
  have quiet' : (ChunkDraft.read {} before).warnings = ({} : ChunkDraft).warnings := quiet
  have reading := read_append quiet' ⟨left_out, rfl⟩
  have chunk : (ChunkDraft.read {} before).pushMarked .optional (readOptional left_out) =
      ChunkDraft.behind {} ((chunksOf before).1 ++ [⟨.optional, String.ofList (readOptional left_out).inner⟩])
        ((chunksOf before).1.any isPlain) (readOptional left_out).warnings := by
    have warnings : (ChunkDraft.read {} before).warnings = [] := quiet
    simp [ChunkDraft.pushMarked, ChunkDraft.push, ChunkDraft.flush, ChunkDraft.behind, plain, typed, warnings, chunksOf]
  rw [chunksOf, reading, ChunkDraft.read, chunk, read_behind]
  simp [ChunkDraft.behind, chunksOf]

end Behind

/-- What may be left out of a completion, with parts that may be left out in turn, to any depth. Behind its start it is
read up to its own end, as all its plain text without the marks; if it has no end, it goes on to the end of the text,
of which one warning tells. In a completion string it is one chunk of that text, behind what is read before it and ahead
of what is read behind it. -/
theorem nested_optionals_are_flattened (parts : List Part) (plain : ∀ text ∈ textsOf parts, Plain text) :
    (∀ rest, readOptional (printedParts parts ++ '#' :: '\x7d' :: rest) = ⟨(textsOf parts).flatten, rest, []⟩) ∧
    readOptional (printedParts parts) =
      ⟨(textsOf parts).flatten, [], [.openOptional (String.ofList (printedParts parts))]⟩ ∧
    ∀ before, (chunksOf before).2 = [] →
      (∀ rest, chunksOf (before ++ '\x7b' :: '#' :: (printedParts parts ++ '#' :: '\x7d' :: rest)) =
        ((chunksOf before).1 ++ ⟨.optional, String.ofList (textsOf parts).flatten⟩ ::
          (chunksOf rest).1.map (retyped ((chunksOf before).1.any isPlain)), (chunksOf rest).2)) ∧
      chunksOf (before ++ '\x7b' :: '#' :: printedParts parts) =
        ((chunksOf before).1 ++ [⟨.optional, String.ofList (textsOf parts).flatten⟩],
          [.openOptional (String.ofList (printedParts parts))]) := by
  have nothing : chunksOf [] = ([], []) := by
    rw [chunksOf, ChunkDraft.read]
    rfl
  refine ⟨readOptional_closed plain, readOptional_open plain, fun before quiet => ⟨fun rest => ?_, ?_⟩⟩
  · rw [chunksOf_optional quiet, readOptional_closed plain]
    rfl
  · rw [chunksOf_optional quiet, readOptional_open plain, nothing]
    rfl

/-- A parameter may be left out, or else only the one behind it. -/
theorem optional_parameters_are_flattened :
    (∀ text ∈ textsOf [.literal ", ".toList, .placeholder "int b".toList,
        .optional [.literal ", ".toList, .placeholder "int c".toList]], Plain text) ∧
      (chunksOf "f(<#int a#>".toList).2 = [] ∧
      chunksOf "f(<#int a#>\x7b#, <#int b#>\x7b#, <#int c#>#\x7d#\x7d)".toList =
        ([⟨.typedText, "f"⟩, ⟨.leftParen, "("⟩, ⟨.placeholder, "int a"⟩, ⟨.optional, ", int b, int c"⟩,
          ⟨.rightParen, ")"⟩], []) := by
  have plain : ∀ text ∈ textsOf [.literal ", ".toList, .placeholder "int b".toList,
      .optional [.literal ", ".toList, .placeholder "int c".toList]], Plain text := by decide
  have before : chunksOf "f(<#int a#>".toList =
      ([⟨.typedText, "f"⟩, ⟨.leftParen, "("⟩, ⟨.placeholder, "int a"⟩], []) := by cbv
  have behind : chunksOf [')'] = ([⟨.rightParen, ")"⟩], []) := by cbv
  have quiet : (chunksOf "f(<#int a#>".toList).2 = [] := by rw [before]
  have whole := ((nested_optionals_are_flattened _ plain).2.2 _ quiet).1 [')']
  rw [before, behind] at whole
  exact ⟨plain, quiet, whole⟩

end UnitCache.Clang
