import Std.Data.HashMap
import UnitCache.Grammar.Rule
/-!
Grammars written out: every rule becomes a list of productions, each a sequence of steps over numbered symbols.
Repetitions get rules of their own, and inlined rules are replaced by what they say.
-/
namespace UnitCache.Grammar

inductive Symbol where
  | terminal (index : Nat)
  | nonterminal (index : Nat)
  deriving BEq, Hashable, Inhabited, Repr

/-- The names a child gets in the tree: another kind, and the field it fills. -/
structure Label where
  renamed : Option String := none
  field : Option String := none
  deriving BEq, Hashable, Inhabited, Repr

structure Step where
  symbol : Symbol
  precedence : Option Int := none
  assoc : Option Assoc := none
  label : Label := {}
  deriving BEq, Hashable, Inhabited, Repr

structure Production where
  steps : List Step
  dynamic : Int := 0
  deriving BEq, Hashable, Inhabited, Repr

structure Nonterminal where
  name : String
  hidden : Bool := false
  auxiliary : Bool := false
  deriving Inhabited

inductive Body where
  | symbol (symbol : Symbol)
  | blank
  | seq (members : List Body)
  | choice (members : List Body)
  | repeat1 (body : Body)
  | precedence (level : Int) (assoc : Option Assoc) (body : Body)
  | dynamic (level : Int) (body : Body)
  | field (name : String) (body : Body)
  | renamed (name : String) (body : Body)
  deriving BEq, Hashable, Inhabited

def Rule.token? : Rule → Option Token
  | .token lexical => some lexical
  | _ => none

/-- The token of a literal; among tokens that match the same text a literal wins. -/
def literalToken (content : String) : Token :=
  { name := content, pattern := .text content, rank := 2 }

mutual

def Rule.tokens : Rule → List Token
  | .text content => [literalToken content]
  | .token lexical => [lexical]
  | .ref _ => []
  | .blank => []
  | .seq members => tokensOfAll members
  | .choice members => tokensOfAll members
  | .repeat1 body => body.tokens
  | .precedence _ _ body => body.tokens
  | .dynamic _ body => body.tokens
  | .field _ body => body.tokens
  | .renamed _ body => body.tokens

def tokensOfAll : List Rule → List Token
  | [] => []
  | head :: rest => head.tokens ++ tokensOfAll rest

end

/-- The tokens of a grammar in the order of their first mention; a definition that is nothing but a token names it. -/
def Language.tokens (grammar : Language) : Array Token :=
  (grammar.rules.foldl (fun (found : Array Token × Std.HashMap String Unit) (entry : String × Rule) =>
    entry.2.tokens.foldl (fun found token =>
      if found.2.contains token.name then found
      else (found.1.push token, found.2.insert token.name ())) found) (#[], {})).1

mutual

def Rule.body (symbols : Std.HashMap String Symbol) : Rule → Body
  | .text content => symbolBody symbols content
  | .token lexical => symbolBody symbols lexical.name
  | .ref name => symbolBody symbols name
  | .blank => .blank
  | .seq members => .seq (bodies symbols members)
  | .choice members => .choice (bodies symbols members)
  | .repeat1 body => .repeat1 (body.body symbols)
  | .precedence level assoc body => .precedence level assoc (body.body symbols)
  | .dynamic level body => .dynamic level (body.body symbols)
  | .field name body => .field name (body.body symbols)
  | .renamed name body => .renamed name (body.body symbols)
where
  symbolBody (symbols : Std.HashMap String Symbol) (name : String) : Body :=
    match symbols[name]? with
    | some symbol => .symbol symbol
    | none => .blank

def bodies (symbols : Std.HashMap String Symbol) : List Rule → List Body
  | [] => []
  | head :: rest => head.body symbols :: bodies symbols rest

end

structure Repeats where
  next : Nat
  known : Std.HashMap Body Symbol := {}
  made : List (Nonterminal × Body) := []

mutual

def Body.expandRepeats (owner : String) : Body → Repeats → Body × Repeats
  | .symbol symbol, repeats => (.symbol symbol, repeats)
  | .blank, repeats => (.blank, repeats)
  | .seq members, repeats =>
    let (members, repeats) := expandAll owner members repeats
    (.seq members, repeats)
  | .choice members, repeats =>
    let (members, repeats) := expandAll owner members repeats
    (.choice members, repeats)
  | .repeat1 body, repeats =>
    let (content, repeats) := body.expandRepeats owner repeats
    match repeats.known[content]? with
    | some symbol => (.symbol symbol, repeats)
    | none =>
      let symbol := Symbol.nonterminal repeats.next
      (.symbol symbol,
        { next := repeats.next + 1,
          known := repeats.known.insert content symbol,
          made := ({ name := owner, hidden := true, auxiliary := true },
            .choice [.seq [.symbol symbol, .symbol symbol], content]) :: repeats.made })
  | .precedence level assoc body, repeats =>
    let (body, repeats) := body.expandRepeats owner repeats
    (.precedence level assoc body, repeats)
  | .dynamic level body, repeats =>
    let (body, repeats) := body.expandRepeats owner repeats
    (.dynamic level body, repeats)
  | .field name body, repeats =>
    let (body, repeats) := body.expandRepeats owner repeats
    (.field name body, repeats)
  | .renamed name body, repeats =>
    let (body, repeats) := body.expandRepeats owner repeats
    (.renamed name body, repeats)

/-- Replaces the repetitions of several bodies, first to last. -/
def expandAll (owner : String) : List Body → Repeats → List Body × Repeats
  | [], repeats => ([], repeats)
  | head :: rest, repeats =>
    let (head, repeats) := head.expandRepeats owner repeats
    let (rest, repeats) := expandAll owner rest repeats
    (head :: rest, repeats)

end

structure Scope where
  precedence : Option Int := none
  assoc : Option Assoc := none
  label : Label := {}

def mapLast (change : Step → Step) : List Step → List Step
  | [] => []
  | [last] => [change last]
  | head :: rest => head :: mapLast change rest

def strongerDynamic (earlier later : Int) : Int :=
  if later.natAbs > earlier.natAbs then later else earlier

def Production.append (first second : Production) : Production :=
  { steps := first.steps ++ second.steps, dynamic := strongerDynamic first.dynamic second.dynamic }

mutual

/-- All productions of a body. A precedence reaches the last step of the part it is given to only where that part
ends the production; elsewhere the last step has the precedence of what surrounds it. -/
def Body.productions (scope : Scope) (atEnd : Bool) : Body → List Production
  | .symbol symbol =>
    [{ steps := [⟨symbol, scope.precedence, scope.assoc, scope.label⟩] }]
  | .blank => [{ steps := [] }]
  | .seq members => sequenceProductions scope atEnd members
  | .choice members => choiceProductions scope atEnd members
  | .repeat1 body => body.productions scope atEnd
  | .precedence level assoc body =>
    let inner := body.productions
      { scope with precedence := some level, assoc := if assoc.isSome then assoc else scope.assoc } atEnd
    if atEnd then inner
    else inner.map fun production =>
      { production with steps := production.steps |> mapLast fun last =>
        { last with
          precedence := scope.precedence
          assoc := if assoc.isSome then scope.assoc else last.assoc } }
  | .dynamic level body =>
    (body.productions scope atEnd).map fun production =>
      { production with dynamic := strongerDynamic level production.dynamic }
  | .field name body =>
    body.productions { scope with label := { scope.label with field := some name } } atEnd
  | .renamed name body =>
    body.productions { scope with label := { scope.label with renamed := some name } } atEnd

def sequenceProductions (scope : Scope) (atEnd : Bool) : List Body → List Production
  | [] => [{ steps := [] }]
  | head :: rest =>
    let firsts := head.productions scope (atEnd && rest.isEmpty)
    let seconds := sequenceProductions scope atEnd rest
    firsts.flatMap fun first => seconds.map fun second => first.append second

def choiceProductions (scope : Scope) (atEnd : Bool) : List Body → List Production
  | [] => []
  | head :: rest => head.productions scope atEnd ++ choiceProductions scope atEnd rest

end

def Production.insideOf (inner : Production) (outer : Step) : List Step :=
  let labelled := inner.steps.map fun step =>
    { step with label :=
      { renamed := step.label.renamed <|> outer.label.renamed, field := step.label.field <|> outer.label.field } }
  mapLast (fun last =>
    { last with precedence := last.precedence <|> outer.precedence, assoc := last.assoc <|> outer.assoc }) labelled

/-- Replaces the steps over inlined rules by their productions, `depth` levels deep. -/
def inlineSteps (inlined : Nat → Option (List Production)) : Nat → List Step → List Production
  | _, [] => [{ steps := [] }]
  | 0, steps => [{ steps }]
  | depth + 1, step :: rest =>
    let tails := inlineSteps inlined (depth + 1) rest
    let heads : List Production :=
      match step.symbol with
      | .terminal _ => [{ steps := [step] }]
      | .nonterminal index =>
        match inlined index with
        | none => [{ steps := [step] }]
        | some productions => productions.flatMap fun production =>
          (inlineSteps inlined depth (production.insideOf step)).map fun result =>
            { result with dynamic := strongerDynamic production.dynamic result.dynamic }
    heads.flatMap fun head => tails.map fun tail => head.append tail
termination_by depth steps => (depth, steps.length)

def withoutRepetition (productions : List Production) : List Production :=
  (productions.foldl (fun (kept : Array Production × Std.HashMap Production Unit) production =>
    if kept.2.contains production then kept
    else (kept.1.push production, kept.2.insert production ())) (#[], {})).1.toList

/-- A grammar written out over numbered symbols. The word is the first terminal to be tried, then come the
others in the order of their first mention. -/
structure Expanded where
  tokens : Array Token
  nonterminals : Array Nonterminal
  productionsOf : Array (List Nat)
  productions : Array (Nat × Production)
  word : Nat
  extra : Nat
  supertypes : List Nat
  boundaries : List Nat
  unskippable : List Nat
  deriving Inhabited

def Language.expand (grammar : Language) : Expanded :=
  let tokens := grammar.tokens
  let rules := grammar.rules.filter fun entry => entry.2.token?.isNone
  let symbols : Std.HashMap String Symbol :=
    (List.range tokens.size).foldl (fun symbols index =>
      symbols.insert (tokens[index]?.elim "" Token.name) (.terminal index)) {}
  let symbols := rules.zipIdx.foldl (fun symbols entry =>
    symbols.insert entry.1.1 (.nonterminal entry.2)) symbols
  let (expanded, repeats) := rules.foldl
    (fun (state : List (Nonterminal × Body) × Repeats) entry =>
      let (body, repeats) := (entry.2.body symbols).expandRepeats entry.1 state.2
      (({ name := entry.1, hidden := grammar.isHidden entry.1 }, body) :: state.1, repeats))
    ([], { next := rules.length })
  let all := expanded.reverse ++ repeats.made.reverse
  let plain := (all.map fun entry => withoutRepetition (entry.2.productions {} true)).toArray
  let numberOf (name : String) : Option Nat :=
    match symbols[name]? with
    | some (.terminal index) => some index
    | some (.nonterminal index) => some index
    | none => none
  let inlinedRules := grammar.inlined.filterMap numberOf
  let inlined (index : Nat) : Option (List Production) :=
    if inlinedRules.contains index then plain[index]? else none
  let final := plain.toList.map fun productions =>
    withoutRepetition (productions.flatMap fun production =>
      (inlineSteps inlined 8 production.steps).map fun result =>
        { result with dynamic := strongerDynamic production.dynamic result.dynamic })
  let flat := (final.zipIdx.flatMap fun entry => entry.1.map fun production => (entry.2, production)).toArray
  let productionsOf := flat.toList.zipIdx.foldl
    (fun (table : Array (List Nat)) entry => table.modify entry.1.1 (fun found => entry.2 :: found))
    (Array.replicate final.length [])
  { tokens
    nonterminals := (all.map Prod.fst).toArray
    productionsOf := productionsOf.map List.reverse
    productions := flat
    word := (numberOf grammar.word).getD 0
    extra := (numberOf grammar.extra).getD 0
    supertypes := grammar.supertypes.filterMap numberOf
    boundaries := grammar.boundaries.filterMap numberOf
    unskippable := grammar.unskippable.filterMap numberOf }

end UnitCache.Grammar
