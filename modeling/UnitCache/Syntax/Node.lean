import UnitCache.Syntax.Tree

namespace UnitCache.Syntax

open UnitCache.Grammar

structure NodeInfo where
  kind : String
  field : Option String := none
  point : Point
  /-- The numbers of the first character and of the one after the last. -/
  start : Nat
  stop : Nat
  isError : Bool := false
  isMissing : Bool := false
  /-- Whether the node may stand anywhere; such a node fills no field. -/
  isExtra : Bool := false
  hasError : Bool := false
  deriving Inhabited, Repr, DecidableEq

inductive Node where
  | mk (info : NodeInfo) (children : List Node)
  deriving Inhabited, Repr

namespace Node

def info : Node → NodeInfo
  | mk info _ => info

def children : Node → List Node
  | mk _ children => children

def kind (node : Node) : String := node.info.kind

def child? (node : Node) (field : String) : Option Node :=
  node.children.find? fun child => child.info.field == some field && !child.info.isExtra

theorem sizeOf_lt_of_child? {node child : Node} {field : String} (found : node.child? field = some child) :
    sizeOf child < sizeOf node := by
  have member := List.mem_of_find?_eq_some found
  cases node with
  | mk info children =>
    have smaller := List.sizeOf_lt_of_mem member
    simp only [Node.children] at smaller
    simp only [mk.sizeOf_spec]
    omega

def fillField (field : Option String) (nodes : List Node) : List Node :=
  match field with
  | none => nodes
  | some _ => nodes.map fun
    | mk info children => mk { info with field := field } children

def kindOf (automaton : Automaton) : TreeSymbol → String
  | .terminal index => (automaton.terminalKinds[index]?).getD ""
  | .nonterminal index => (automaton.nonterminalKinds[index]?).getD ""
  | .error => "ERROR"
  | .skipped => ""

mutual

def ofTree (automaton : Automaton) (source : Source) (label : Label) : Tree → List Node
  | .node summary children =>
    let inner := ofTrees automaton source summary.labels children
    let shown (kind : String) : List Node :=
      [mk {
        kind
        field := label.field
        point := source.pointAt summary.start
        start := summary.start
        stop := summary.stop
        isError := summary.symbol == .error
        isMissing := summary.missing
        isExtra := summary.extra
        hasError := decide (0 < summary.cost) } inner]
    match label.renamed with
    | some kind => shown kind
    | none =>
      if Tree.isShown automaton summary.symbol then shown (kindOf automaton summary.symbol)
      else fillField label.field inner

def ofTrees (automaton : Automaton) (source : Source) (labels : List Label) : List Tree → List Node
  | [] => []
  | tree :: rest =>
    if tree.summary.extra then
      ofTree automaton source {} tree ++ ofTrees automaton source labels rest
    else
      ofTree automaton source (labels.head?.getD {}) tree
        ++ ofTrees automaton source (labels.drop 1) rest

end

end Node

end UnitCache.Syntax
