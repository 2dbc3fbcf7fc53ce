import UnitCache.Grammar.Production
/-!
Items: productions read up to a point. Two readings are one item when nothing that is still to come, and nothing the
tree will show, tells them apart.
-/
namespace UnitCache.Grammar

structure ItemShape where
  read : Nat
  owner : Option Nat
  dynamic : Int
  length : Nat
  precedence : Int
  assoc : Option Assoc
  labels : List Label
  rest : List Step
  deriving BEq, Hashable, Inhabited

def ItemShape.ofProduction (owner : Option Nat) (production : Production) (read : Nat) : ItemShape :=
  let last := if read = 0 then none else production.steps[read - 1]?
  { read
    owner
    dynamic := production.dynamic
    length := production.steps.length
    precedence := (last.bind Step.precedence).getD 0
    assoc := last.bind Step.assoc
    labels := (production.steps.take read).map Step.label
    rest := (production.steps.drop read).map fun step =>
      { step with precedence := some (step.precedence.getD 0) } }

structure Item where
  shape : ItemShape
  next : Nat
  deriving Inhabited

def Item.symbol? (item : Item) : Option Symbol := item.shape.rest.head?.map Step.symbol

def Item.following? (item : Item) : Option Symbol := item.shape.rest.tail.head?.map Step.symbol

/-- Items are numbered by how much is read, then by owner; the start comes last. -/
def ItemShape.sortKey (shape : ItemShape) : List Int :=
  [shape.read, (shape.owner.map Int.ofNat).getD 1000000, shape.dynamic, shape.length, shape.precedence,
    match shape.assoc with
    | none => 0
    | some .left => 1
    | some .right => 2]

/-- Whether a list of numbers comes before another, or is equal to it. -/
def keyLe : List Int → List Int → Bool
  | [], _ => true
  | _ :: _, [] => false
  | left :: lefts, right :: rights => if left == right then keyLe lefts rights else decide (left < right)

structure Items where
  items : Array Item
  /-- The item of each production before anything is read. -/
  starts : Array Nat
  /-- The item of the whole text before anything is read. -/
  root : Nat
  deriving Inhabited

def rootProduction : Production := { steps := [{ symbol := .nonterminal 0 }] }

def Items.ofExpanded (grammar : Expanded) : Items :=
  let shapesOf (owner : Option Nat) (production : Production) : List ItemShape :=
    (List.range (production.steps.length + 1)).map (ItemShape.ofProduction owner production)
  let productions := grammar.productions.toList.map (fun entry => (some entry.1, entry.2))
    ++ [(none, rootProduction)]
  let all := productions.flatMap fun entry => shapesOf entry.1 entry.2
  let sorted := (all.map fun shape => (shape.sortKey, shape)).mergeSort (fun left right => keyLe left.1 right.1)
  let (shapes, numbers) := sorted.foldl
    (fun (state : Array ItemShape × Std.HashMap ItemShape Nat) entry =>
      if state.2.contains entry.2 then state
      else (state.1.push entry.2, state.2.insert entry.2 state.1.size)) (#[], {})
  let numberOf (shape : ItemShape) : Nat := numbers[shape]?.getD 0
  let nexts := productions.foldl (fun (nexts : Array Nat) entry =>
    (List.range entry.2.steps.length).foldl (fun nexts read =>
      nexts.setIfInBounds (numberOf (.ofProduction entry.1 entry.2 read))
        (numberOf (.ofProduction entry.1 entry.2 (read + 1)))) nexts) (Array.replicate shapes.size 0)
  { items := shapes.mapIdx fun index shape => { shape, next := nexts[index]?.getD 0 }
    starts := grammar.productions.map fun entry => numberOf (.ofProduction (some entry.1) entry.2 0)
    root := numberOf (.ofProduction none rootProduction 0) }

end UnitCache.Grammar
