import UnitCache.Grammar.Draft
import UnitCache.Grammar.Scanner
/-!
The automaton of a grammar: what to do in each state at each token. Conflicts between reading on and building a
node are settled by precedence, then by grouping; what these leave open stays open.
-/
namespace UnitCache.Grammar

inductive Action where
  /-- Read the token; with `again` this would only repeat what building a node first does. -/
  | shift (state : Nat) (again : Bool)
  | shiftExtra
  | reduce (owner length : Nat) (dynamic : Int) (labels : List Label)
  | accept
  deriving Inhabited

structure State where
  begun : Array (Nat × TokenSet)
  finished : Array (Nat × TokenSet)
  edges : Std.HashMap Nat Nat
  expected : TokenSet
  goal : ScanGoal
  /-- The nonterminal built here whatever follows, if the node would not be seen. -/
  passes : Option Nat
  deriving Inhabited

structure Automaton where
  tables : Tables
  scanner : Scanner
  states : Array State
  order : List Nat
  keywords : Std.HashMap String Nat
  /-- What is looked for while text is skipped, with its tokens. -/
  skipExpected : TokenSet
  skipGoal : ScanGoal
  shownTerminals : Array Bool
  shownNonterminals : Array Bool
  terminalKinds : Array String
  nonterminalKinds : Array String

/-- The texts of a pattern that has only finitely many, found as the pattern is written; none for other patterns. -/
def Pattern.texts? : Pattern → Option (List String)
  | .empty => some [""]
  | .chars set =>
    match set.ranges.toList with
    | [(first, last)] => if first == last then some [String.singleton (Char.ofNat first)] else none
    | _ => none
  | .seq first second => do
    let heads ← first.texts?
    let tails ← second.texts?
    return heads.flatMap fun head => tails.map fun tail => head ++ tail
  | .alt left right => do
    let lefts ← left.texts?
    let rights ← right.texts?
    return lefts ++ rights
  | .star _ => none

def isWordText (text : String) : Bool :=
  match text.toList with
  | [] => false
  | head :: rest => (head.isAlpha || head == '_') && rest.all fun c => c.isAlphanum || c == '_'

def Token.words (token : Token) : List String :=
  match token.pattern.texts? with
  | some texts => if !token.immediate && texts.all isWordText then texts else []
  | none => []

namespace Automaton

def aliasTable (grammar : Expanded) : Array (List (Option String)) :=
  grammar.productions.foldl (fun table entry =>
    entry.2.steps.foldl (fun (table : Array (List (Option String))) step =>
      match step.symbol with
      | .nonterminal index => table.modify index (step.label.renamed :: ·)
      | .terminal _ => table) table) (Array.replicate grammar.nonterminals.size [])

/-- The nonterminal that a state builds whatever follows, if its node is made of one child and would not be seen. -/
def passesOf (tables : Tables) (aliases : Array (List (Option String)))
    (finished : Array (Nat × TokenSet)) : Option Nat :=
  let owners := finished.toList.map fun entry =>
    let shape := (tables.item entry.1).shape
    match shape.owner with
    | none => none
    | some owner =>
      let nonterminal := tables.grammar.nonterminals[owner]?.getD { name := "" }
      if shape.length == 1 && shape.dynamic == 0 && shape.labels.all (· == {}) && nonterminal.hidden
          && !tables.grammar.supertypes.contains owner
          && ((aliases[owner]?).getD []).all Option.isNone then some owner
      else none
  match owners with
  | some owner :: rest => if rest.all (· == some owner) then some owner else none
  | _ => none

def stateOf (tables : Tables) (aliases : Array (List (Option String))) (goalOf : TokenSet → ScanGoal)
    (draft : Draft) : State :=
  let isFinished (entry : Nat × TokenSet) : Bool := (tables.item entry.1).symbol?.isNone
  let finished := ((tables.closure draft.kernel).toList.filter isFinished).mergeSort
    fun left right => decide (left.1 ≤ right.1)
  let begun := draft.kernel.filter fun entry =>
    !isFinished entry && (tables.item entry.1).shape.read != 0
  let terminals := tables.grammar.tokens.size
  let expected := draft.edges.fold (fun (set : TokenSet) code _ =>
      if code < terminals then set ||| TokenSet.single code else set)
    (finished.foldl (fun (set : TokenSet) entry => set ||| entry.2) (TokenSet.single tables.grammar.extra))
  { begun
    finished := finished.toArray
    edges := draft.edges
    expected
    goal := goalOf expected
    passes := if draft.edges.isEmpty then passesOf tables aliases finished.toArray else none }

def goalOf (tables : Tables) (scanner : Scanner) (keywordTokens : TokenSet) (expected : TokenSet) : ScanGoal :=
  let plain := expected &&& ((1 <<< tables.grammar.tokens.size) - 1)
  let words := plain &&& keywordTokens
  let others := plain ^^^ words
  let tokens := if words == 0 then others else others ||| TokenSet.single tables.grammar.word
  scanner.goal (tokens.members tables.grammar.tokens.size) (expected.testBit tables.endOfText)

/-- The states with what they look for; equal sets of tokens share it. -/
def statesOf (tables : Tables) (aliases : Array (List (Option String))) (goal : TokenSet → ScanGoal)
    (drafts : Array Draft) : Array State :=
  (drafts.foldl (fun (found : Array State × Std.HashMap TokenSet ScanGoal) draft =>
    let state := stateOf tables aliases (fun _ => default) draft
    match found.2[state.expected]? with
    | some goal => (found.1.push { state with goal }, found.2)
    | none =>
      let goal := goal state.expected
      (found.1.push { state with goal }, found.2.insert state.expected goal)) (#[], {})).1

def ofLanguage (grammar : Language) : Automaton :=
  let expanded := grammar.expand
  let tables := expanded.tables
  let scanner := Scanner.ofTokens expanded.tokens grammar.blanks
  let terminals := List.range expanded.tokens.size
  let wordsOf (index : Nat) : List String :=
    if index == expanded.word then [] else ((expanded.tokens[index]?).map Token.words).getD []
  let keywords := terminals.foldl (fun (found : Std.HashMap String Nat) index =>
    (wordsOf index).foldl (fun found word => found.insert word index) found) {}
  let keywordTokens := terminals.foldl (fun (set : TokenSet) index =>
    if (wordsOf index).isEmpty then set else set ||| TokenSet.single index) 0
  let goal := goalOf tables scanner keywordTokens
  let aliases := aliasTable expanded
  let skipExpected := terminals.foldl (fun (set : TokenSet) index =>
    if expanded.unskippable.contains index then set else set ||| TokenSet.single index)
    (TokenSet.single tables.endOfText)
  { tables
    scanner
    states := statesOf tables aliases goal (Drafts.collect tables)
    order := expanded.word :: terminals.filter (· != expanded.word)
    keywords
    skipExpected
    skipGoal := goal skipExpected
    shownTerminals := expanded.tokens.map Token.shown
    shownNonterminals := expanded.nonterminals.mapIdx fun index nonterminal =>
      !nonterminal.hidden || (aliases[index]?).any fun names => !names.isEmpty && names.all Option.isSome
    terminalKinds := expanded.tokens.map Token.kind
    nonterminalKinds := expanded.nonterminals.mapIdx fun index nonterminal =>
      match aliases[index]? with
      | some (some name :: rest) => if rest.all Option.isSome then name else nonterminal.name
      | _ => nonterminal.name }

def state (automaton : Automaton) (number : Nat) : State := automaton.states[number]?.getD default

def endOfText (automaton : Automaton) : Nat := automaton.tables.endOfText

/-- Passes over states that build an unseen node of one child whatever follows. -/
def settle (automaton : Automaton) (source : State) : Nat → Nat → Nat
  | 0, target => target
  | fuel + 1, target =>
    match (automaton.state target).passes with
    | none => target
    | some owner =>
      match source.edges[automaton.tables.grammar.tokens.size + owner]? with
      | none => target
      | some next => settle automaton source fuel next

def target? (automaton : Automaton) (number : Nat) (symbol : Symbol) : Option Nat :=
  let source := automaton.state number
  (source.edges[automaton.tables.codeOf symbol]?).map (automaton.settle source 16)

def begins (automaton : Automaton) (token item : Nat) : Bool :=
  match (automaton.tables.item item).symbol? with
  | none => false
  | some symbol => (firstOf automaton.tables.firsts symbol).testBit token

def reduction (item : Item) : Action :=
  match item.shape.owner with
  | none => .accept
  | some owner => .reduce owner item.shape.length item.shape.dynamic item.shape.labels

def onlyRepetition (automaton : Automaton) (items : List Item) : Bool :=
  match items.map (fun item => item.shape.owner) with
  | some owner :: rest =>
    ((automaton.tables.grammar.nonterminals[owner]?).map Nonterminal.auxiliary).getD false
      && rest.all (· == some owner)
  | _ => false

/-- What remains of a conflict between reading on, at the precedences of `begun`, and building a node. -/
def resolve (automaton : Automaton) (begun finished strongest : List Item) (precedence : Int)
    (target : Nat) : List Action :=
  let builds := strongest.map reduction
  if automaton.onlyRepetition (begun ++ finished) then builds ++ [.shift target true]
  else
    let weaker := begun.any fun item => decide (item.shape.precedence < precedence)
    let stronger := begun.any fun item => decide (precedence < item.shape.precedence)
    let assocs := strongest.map fun item => item.shape.assoc
    if stronger && !weaker then [.shift target false]
    else if weaker && !stronger then builds
    else if weaker then builds ++ [.shift target false]
    else if assocs.all (· == some .left) then builds
    else if assocs.all (· == some .right) then [.shift target false]
    else builds ++ [.shift target false]

def actions (automaton : Automaton) (number token : Nat) : List Action :=
  let state := automaton.state number
  if !state.expected.testBit token then []
  else
    let finished := (state.finished.toList.filter fun entry => entry.2.testBit token).map fun entry =>
      automaton.tables.item entry.1
    let precedence := finished.foldl (fun best item => max best item.shape.precedence)
      ((finished.head?.map fun item => item.shape.precedence).getD 0)
    let strongest := finished.filter fun item => item.shape.precedence == precedence
    let found :=
      match automaton.target? number (.terminal token) with
      | none => strongest.map reduction
      | some target =>
        if strongest.isEmpty then [.shift target false]
        else
          let begun := (state.begun.toList.filter fun entry => automaton.begins token entry.1).map fun entry =>
            automaton.tables.item entry.1
          automaton.resolve begun finished strongest precedence target
    if found.isEmpty && token == automaton.tables.grammar.extra then [.shiftExtra] else found

end Automaton

end UnitCache.Grammar
