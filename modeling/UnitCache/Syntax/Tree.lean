import UnitCache.Grammar.Automaton
import UnitCache.Syntax.Source
/-!
Parse trees as they are built, with what a parse compares them by: the cost of their errors, their dynamic
precedence, and how many of their nodes will be seen.
-/
namespace UnitCache.Syntax

open UnitCache.Grammar

inductive TreeSymbol where
  | terminal (index : Nat)
  | nonterminal (index : Nat)
  | error
  /-- Tokens skipped so far while a way on is looked for. -/
  | skipped
  deriving BEq, Inhabited

structure ErrorCosts where
  recovery : Nat := 500
  missing : Nat := 110
  tree : Nat := 100
  byte : Nat := 1
  line : Nat := 30

def costs : ErrorCosts := {}

structure Summary where
  symbol : TreeSymbol
  /-- Where the blanks before the tree start. -/
  origin : Nat
  start : Nat
  stop : Nat
  extra : Bool := false
  missing : Bool := false
  keyword : Bool := false
  cost : Nat := 0
  dynamic : Int := 0
  descendants : Nat := 0
  children : Nat := 0
  labels : List Label := []
  deriving Inhabited

inductive Tree where
  | node (summary : Summary) (children : List Tree)
  deriving Inhabited

namespace Tree

def summary : Tree → Summary
  | node summary _ => summary

def children : Tree → List Tree
  | node _ children => children

def withSummary (tree : Tree) (change : Summary → Summary) : Tree := node (change tree.summary) tree.children

def isShown (automaton : Automaton) : TreeSymbol → Bool
  | .terminal index => (automaton.shownTerminals[index]?).getD false
  | .nonterminal index => (automaton.shownNonterminals[index]?).getD false
  | .error => true
  | .skipped => false

def token (index origin start stop : Nat) (keyword : Bool) (endOfText : Nat) : Tree :=
  node { symbol := .terminal index, origin, start, stop, keyword, extra := index == endOfText } []

def missingToken (index position : Nat) : Tree :=
  node { symbol := .terminal index, origin := position, start := position, stop := position, missing := true,
         cost := costs.missing + costs.recovery } []

def unknownText (origin start stop : Nat) : Tree := node { symbol := .error, origin, start, stop } []

def isErrorSymbol : TreeSymbol → Bool
  | .error | .skipped => true
  | _ => false

def countChild (automaton : Automaton) (isError : Bool) (state : Summary × List Label) (child : Tree) :
    Summary × List Label :=
  let (parent, labels) := state
  let inner := child.summary
  let isLeaf := child.children.isEmpty
  let shown := isShown automaton inner.symbol
  let skippedCost :=
    if isError && !inner.extra && !(inner.symbol == .error && isLeaf) then
      if shown then costs.tree else if isLeaf then 0 else costs.tree * inner.children
    else 0
  let aliased := !inner.extra && ((labels.head?).bind Label.renamed).isSome
  let (descendants, seen) :=
    if aliased || shown then (1, 1) else if isLeaf then (0, 0) else (0, inner.children)
  ({ parent with
      cost := parent.cost + skippedCost + (if inner.symbol == .skipped then 0 else inner.cost)
      dynamic := parent.dynamic + inner.dynamic
      descendants := parent.descendants + inner.descendants + descendants
      children := parent.children + seen },
    if inner.extra then labels else labels.drop 1)

def ofChildren (automaton : Automaton) (source : Source) (symbol : TreeSymbol) (labels : List Label)
    (position : Nat) (children : List Tree) : Tree :=
  let isError := isErrorSymbol symbol
  let empty : Summary := { symbol, origin := position, start := position, stop := position, labels }
  let spanned :=
    match children.head?, children.getLast? with
    | some first, some last =>
      { empty with origin := first.summary.origin, start := first.summary.start, stop := last.summary.stop }
    | _, _ => empty
  let (counted, _) := children.foldl (countChild automaton isError) (spanned, labels)
  let ownCost :=
    if isError then
      costs.recovery + costs.byte * source.bytesBetween counted.start counted.stop
        + costs.line * source.rowsBetween counted.start counted.stop
    else 0
  node { counted with cost := counted.cost + ownCost } children

/-- How many nodes a tree adds to those that show that a parse gets on. -/
def weight (automaton : Automaton) (tree : Tree) : Nat :=
  let inner := tree.summary
  inner.descendants + (if isShown automaton inner.symbol then 1 else 0)
    + (if inner.symbol == .skipped then 1 else 0)

def orderOf (automaton : Automaton) : TreeSymbol → Nat
  | .terminal index =>
    if index == automaton.endOfText then 0
    else if index == automaton.tables.grammar.word then 1 else index + 2
  | .nonterminal index => automaton.tables.grammar.tokens.size + 2 + index
  | .skipped => 65534
  | .error => 65535

def compareAll (automaton : Automaton) : Nat → List (Tree × Tree) → Ordering
  | 0, _ => .eq
  | _, [] => .eq
  | fuel + 1, (left, right) :: rest =>
    let leftOrder := orderOf automaton left.summary.symbol
    let rightOrder := orderOf automaton right.summary.symbol
    if leftOrder < rightOrder then .lt
    else if rightOrder < leftOrder then .gt
    else if left.children.length < right.children.length then .lt
    else if right.children.length < left.children.length then .gt
    else compareAll automaton fuel (left.children.zip right.children ++ rest)

def prefersSecond (automaton : Automaton) (fuel : Nat) (left right : Tree) : Bool :=
  let first := left.summary
  let second := right.summary
  if second.cost != first.cost then decide (second.cost < first.cost)
  else if second.dynamic != first.dynamic then decide (first.dynamic < second.dynamic)
  else if 0 < first.cost then true
  else compareAll automaton fuel [(left, right)] == .gt

def alike (left right : Tree) : Bool :=
  let first := left.summary
  let second := right.summary
  first.symbol == second.symbol &&
    ((0 < first.cost && 0 < second.cost)
      || (first.origin == second.origin && first.start == second.start && first.stop == second.stop
        && left.children.length == right.children.length && first.extra == second.extra))

def splitExtras (trees : List Tree) : List Tree × List Tree :=
  let extras := (trees.reverse.takeWhile fun tree => tree.summary.extra).reverse
  (trees.take (trees.length - extras.length), extras)

end Tree

end UnitCache.Syntax
