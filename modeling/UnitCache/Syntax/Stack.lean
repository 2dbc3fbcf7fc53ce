import UnitCache.Syntax.Tree
/-!
The stacks of a parse that follows several readings at once. Stacks share their lower parts: each is a path through
one graph of nodes, from its head down, and a node where readings met has a link for each of them.
-/
namespace UnitCache.Syntax

open UnitCache.Grammar

/-- The state a stack is in; none while text is skipped. -/
abbrev Place := Option Nat

/-- A step down a stack, with the tree that lies between the two nodes; none where skipping began. -/
structure Link where
  node : Nat
  tree : Option Tree
  deriving Inhabited

structure StackNode where
  place : Place
  links : List Link
  position : Nat
  cost : Nat := 0
  dynamic : Int := 0
  /-- How many visible nodes lie on the stack. -/
  weight : Nat := 0
  deriving Inhabited

inductive Status where
  | active
  | paused (token : Tree)
  | halted
  deriving Inhabited

/-- A state further down a stack that the parse might go back to. -/
structure Footprint where
  position : Nat
  depth : Nat
  place : Place
  deriving Inhabited

structure Head where
  node : Nat
  errorWeight : Nat := 0
  status : Status := .active
  /-- The states found below when skipping began. -/
  trail : Option (List Footprint) := none
  deriving Inhabited

structure Stack where
  automaton : Automaton
  nodes : Array StackNode
  heads : Array Head

structure Descent where
  node : Nat
  trees : List Tree
  count : Nat
  deriving Inhabited

def Descent.follow (descent : Descent) (link : Link) : Descent :=
  match link.tree with
  | none => { descent with node := link.node, count := descent.count + 1 }
  | some tree =>
    { node := link.node
      trees := tree :: descent.trees
      count := if tree.summary.extra then descent.count else descent.count + 1 }

namespace Head

def isActive (head : Head) : Bool :=
  match head.status with
  | .active => true
  | _ => false

def isPaused (head : Head) : Bool :=
  match head.status with
  | .paused _ => true
  | _ => false

def isHalted (head : Head) : Bool :=
  match head.status with
  | .halted => true
  | _ => false

end Head

namespace Stack

def initial (automaton : Automaton) : Stack :=
  { automaton, nodes := #[{ place := some 0, links := [], position := 0 }], heads := #[{ node := 0 }] }

def head (stack : Stack) (version : Nat) : Head := stack.heads[version]?.getD default

def nodeAt (stack : Stack) (index : Nat) : StackNode := stack.nodes[index]?.getD default

def top (stack : Stack) (version : Nat) : StackNode := stack.nodeAt (stack.head version).node

def place (stack : Stack) (version : Nat) : Place := (stack.top version).place

def position (stack : Stack) (version : Nat) : Nat := (stack.top version).position

def updateHead (stack : Stack) (version : Nat) (change : Head → Head) : Stack :=
  { stack with heads := stack.heads.modify version change }

def remove (stack : Stack) (version : Nat) : Stack :=
  { stack with heads := stack.heads.eraseIdxIfInBounds version }

def halt (stack : Stack) (version : Nat) : Stack :=
  stack.updateHead version fun head => { head with status := .halted }

def push (stack : Stack) (version : Nat) (tree : Option Tree) (place : Place) : Stack :=
  let below := (stack.head version).node
  let previous := stack.nodeAt below
  let link : Link := { node := below, tree }
  let node : StackNode :=
    match tree with
    | none => { previous with place, links := [link] }
    | some tree =>
      { place
        links := [link]
        position := tree.summary.stop
        cost := previous.cost + tree.summary.cost
        dynamic := previous.dynamic + tree.summary.dynamic
        weight := previous.weight + tree.weight stack.automaton }
  let index := stack.nodes.size
  { stack with
    nodes := stack.nodes.push node
    heads := stack.heads.modify version fun head =>
      { head with
        node := index
        errorWeight := if tree.isNone then node.weight else head.errorWeight } }

def alikeLinks : Option Tree → Option Tree → Bool
  | none, none => true
  | some left, some right => left.alike right
  | _, _ => false

def linkDynamic (link : Link) : Int := (link.tree.map fun tree => tree.summary.dynamic).getD 0

inductive LinkFate where
  | known
  | replaces (index : Nat)
  | joins (node : Nat)
  | isNew

def linkFate (stack : Stack) (link : Link) : List (Link × Nat) → LinkFate
  | [] => .isNew
  | (existing, index) :: rest =>
    if alikeLinks existing.tree link.tree then
      if existing.node == link.node then
        match link.tree, existing.tree with
        | some new, some old =>
          if old.summary.dynamic < new.summary.dynamic then .replaces index else .known
        | _, _ => .known
      else
        let left := stack.nodeAt existing.node
        let right := stack.nodeAt link.node
        if left.place == right.place && left.position == right.position && left.cost == right.cost then
          .joins existing.node
        else linkFate stack link rest
    else linkFate stack link rest

def addLink : Nat → Nat → Link → Stack → Stack
  | 0, _, _, stack => stack
  | fuel + 1, index, link, stack =>
    if link.node == index then stack
    else
      let node := stack.nodeAt index
      let below := stack.nodeAt link.node
      let dynamic := below.dynamic + linkDynamic link
      match stack.linkFate link node.links.zipIdx with
      | .known => stack
      | .replaces position =>
        { stack with nodes := stack.nodes.modify index fun node =>
          { node with links := node.links.set position link, dynamic } }
      | .joins other =>
        let stack := below.links.foldl (fun stack link => addLink fuel other link stack) stack
        { stack with nodes := stack.nodes.modify index fun node =>
          { node with dynamic := max node.dynamic dynamic } }
      | .isNew =>
        if node.links.length == 8 then stack
        else
          let weight := below.weight + ((link.tree.map (Tree.weight stack.automaton)).getD 0)
          { stack with nodes := stack.nodes.modify index fun node =>
            { node with
              links := node.links ++ [link]
              weight := max node.weight weight
              dynamic := max node.dynamic dynamic } }

def canMerge (stack : Stack) (left right : Nat) : Bool :=
  let first := stack.top left
  let second := stack.top right
  (stack.head left).isActive && (stack.head right).isActive && first.place == second.place
    && first.position == second.position && first.cost == second.cost

def merge? (stack : Stack) (left right : Nat) : Option Stack :=
  if stack.canMerge left right then
    let index := (stack.head left).node
    let joined := (stack.top right).links.foldl
      (fun stack link => addLink (stack.nodes.size + 1) index link stack) stack
    let joined :=
      if (joined.nodeAt index).place.isNone then
        joined.updateHead left fun head => { head with errorWeight := (joined.nodeAt index).weight }
      else joined
    some (joined.remove right)
  else none

def errorCost (stack : Stack) (version : Nat) : Nat :=
  let head := stack.head version
  let node := stack.nodeAt head.node
  let meeting := head.isPaused
    || (node.place.isNone && (node.links.head?.map fun link => link.tree.isNone).getD false)
  node.cost + (if meeting then costs.recovery else 0)

def clampWeight (stack : Stack) (version : Nat) : Stack :=
  let weight := (stack.top version).weight
  stack.updateHead version fun head => { head with errorWeight := min head.errorWeight weight }

def progress (stack : Stack) (version : Nat) : Nat :=
  (stack.top version).weight - (stack.head version).errorWeight

def renumber (stack : Stack) (source target : Nat) : Stack :=
  if source == target then stack
  else
    let old := stack.head target
    let new := stack.head source
    let new := { new with trail := new.trail <|> old.trail }
    { stack with heads := (stack.heads.setIfInBounds target new).eraseIdxIfInBounds source }

/-- Copies a reading; gives the number of the copy. -/
def copy (stack : Stack) (version : Nat) : Nat × Stack :=
  (stack.heads.size, { stack with heads := stack.heads.push { stack.head version with trail := none } })

abbrev Slices := List (Nat × List Tree)

def insertAfter (version : Nat) (trees : List Tree) : Slices → Slices
  | [] => [(version, trees)]
  | head :: rest =>
    if head.1 == version && !rest.any (fun other => other.1 == version) then
      head :: (version, trees) :: rest
    else head :: insertAfter version trees rest

/-- Records what was taken off on the way to a node; equal nodes are one reading. -/
def addSlice (version node : Nat) (trees : List Tree) (slices : Slices) (stack : Stack) : Slices × Stack :=
  match slices.reverse.find? fun slice => (stack.head slice.1).node == node with
  | some (found, _) => (insertAfter found trees slices, stack)
  | none =>
    let head : Head := { node, errorWeight := (stack.head version).errorWeight }
    (slices ++ [(stack.heads.size, trees)], { stack with heads := stack.heads.push head })

structure Verdict where
  take : Bool
  stop : Bool

structure Walk (σ : Type) where
  stack : Stack
  slices : Slices
  state : σ

/-- One round of a walk: each descent is judged and goes on along its links, the first link last. The ways that
branch off come after all others. -/
def walkRound {σ : Type} (version : Nat) (judge : σ → Descent → σ × Verdict) :
    List Descent → List Descent → List Descent → Nat → Walk σ → List Descent × Walk σ
  | [], kept, branched, _, walk => (kept.reverse ++ branched, walk)
  | descent :: rest, kept, branched, room, walk =>
    let node := walk.stack.nodeAt descent.node
    let (state, verdict) := judge walk.state descent
    let walk := { walk with state }
    let walk :=
      if verdict.take then
        let (slices, stack) := addSlice version descent.node descent.trees walk.slices walk.stack
        { walk with slices, stack }
      else walk
    match node.links with
    | [] => walkRound version judge rest kept branched (room + 1) walk
    | first :: others =>
      if verdict.stop then walkRound version judge rest kept branched (room + 1) walk
      else
        let added := (others.take room).map (descent.follow)
        walkRound version judge rest (descent.follow first :: kept) (branched ++ added)
          (room - added.length) walk

def walkAll {σ : Type} (version : Nat) (judge : σ → Descent → σ × Verdict) :
    Nat → List Descent → Walk σ → Walk σ
  | 0, _, walk => walk
  | _, [], walk => walk
  | fuel + 1, descents, walk =>
    let (descents, walk) := walkRound version judge descents [] [] (64 - descents.length) walk
    walkAll version judge fuel descents walk

def walk {σ : Type} (stack : Stack) (version : Nat) (initial : σ) (judge : σ → Descent → σ × Verdict) :
    Walk σ :=
  walkAll version judge (stack.nodes.size + 1) [{ node := (stack.head version).node, trees := [], count := 0 }]
    { stack, slices := [], state := initial }

/-- Takes a number of trees off, extras not counted; each way down that differs gives a slice. -/
def popCount (stack : Stack) (version count : Nat) : Slices × Stack :=
  let result := stack.walk version () fun _ descent =>
    ((), if descent.count == count then ⟨true, true⟩ else ⟨false, false⟩)
  (result.slices, result.stack)

def popAll (stack : Stack) (version : Nat) : Slices × Stack :=
  let result := stack.walk version () fun _ descent => ((), ⟨(stack.nodeAt descent.node).links.isEmpty, false⟩)
  (result.slices, result.stack)

def popError (stack : Stack) (version : Nat) : List Tree × Stack :=
  let isError (tree : Tree) : Bool := tree.summary.symbol == .error
  if (stack.top version).links.any fun link => (link.tree.map isError).getD false then
    let result := stack.walk version false fun found descent =>
      match descent.trees with
      | [] => (found, ⟨false, false⟩)
      | tree :: _ => if !found && isError tree then (true, ⟨true, true⟩) else (found, ⟨false, true⟩)
    match result.slices with
    | (slice, trees) :: _ => (trees, result.stack.renumber slice version)
    | [] => ([], result.stack)
  else ([], stack)

def onTrail (depth : Nat) (place : Place) : List Footprint → Bool
  | [] => false
  | entry :: rest =>
    if entry.depth < depth then false
    else if entry.depth == depth && entry.place == place then true
    else onTrail depth place rest

def recordTrail (stack : Stack) (version maximum : Nat) : Stack :=
  let result := stack.walk version ([] : List Footprint) fun trail descent =>
    let node := stack.nodeAt descent.node
    if maximum < descent.count then (trail, ⟨false, true⟩)
    else if onTrail descent.count node.place trail then (trail, ⟨false, false⟩)
    else (⟨node.position, descent.count, node.place⟩ :: trail, ⟨false, false⟩)
  stack.updateHead version fun head => { head with trail := some result.state.reverse }

end Stack

end UnitCache.Syntax
