import UnitCache.Grammar.Closure
/-!
Collecting the states of a left-to-right parse. A state is a set of items with the tokens that may follow each.
States over the same items are joined unless they differ on a boundary token.
-/
namespace UnitCache.Grammar

structure Draft where
  kernel : Array (Nat × TokenSet)
  edges : Std.HashMap Nat Nat := {}
  deriving Inhabited

structure Drafts where
  states : Array Draft
  /-- The state of a kernel, by its items and the boundary tokens that may follow them. -/
  known : Std.HashMap (List (Nat × TokenSet)) Nat
  /-- States whose successors are to be looked at, in order, and later ones in reverse. -/
  front : List Nat
  back : List Nat
  waiting : Array Bool

namespace Drafts

def enter (boundaries : TokenSet) (kernel : List (Nat × TokenSet)) (drafts : Drafts) : Nat × Drafts :=
  let key := kernel.map fun entry => (entry.1, entry.2 &&& boundaries)
  match drafts.known[key]? with
  | none =>
    let number := drafts.states.size
    (number, {
      states := drafts.states.push { kernel := kernel.toArray }
      known := drafts.known.insert key number
      front := drafts.front
      back := number :: drafts.back
      waiting := drafts.waiting.push true })
  | some number =>
    let old := ((drafts.states[number]?).map Draft.kernel).getD #[]
    if (old.toList.zip kernel).all fun (before, now) => now.2.within before.2 then (number, drafts)
    else
      let joined := (old.toList.zip kernel).map fun (before, now) => (before.1, before.2 ||| now.2)
      let isWaiting := drafts.waiting[number]?.getD true
      (number, { drafts with
        states := drafts.states.modify number fun draft => { draft with kernel := joined.toArray }
        back := if isWaiting then drafts.back else number :: drafts.back
        waiting := drafts.waiting.setIfInBounds number true })

def next? (drafts : Drafts) : Option (Nat × Drafts) :=
  match drafts.front with
  | number :: front => some (number, { drafts with front })
  | [] =>
    match drafts.back.reverse with
    | [] => none
    | number :: front => some (number, { drafts with front, back := [] })

def step (tables : Tables) (boundaries : TokenSet) (drafts : Drafts) : Option Drafts :=
  match drafts.next? with
  | none => none
  | some (number, drafts) =>
    let drafts := { drafts with waiting := drafts.waiting.setIfInBounds number false }
    let kernel := ((drafts.states[number]?).map Draft.kernel).getD #[]
    let (edges, drafts) := (tables.successors kernel).fold
      (fun (state : Std.HashMap Nat Nat × Drafts) code kernel =>
        let (target, drafts) := state.2.enter boundaries kernel
        (state.1.insert code target, drafts)) ({}, drafts)
    some { drafts with states := drafts.states.modify number fun draft => { draft with edges } }

def collect (tables : Tables) : Array Draft :=
  let boundaries := tables.grammar.boundaries.foldl (fun set index => set ||| TokenSet.single index) 0
  let start : Drafts :=
    ({ states := #[], known := {}, front := [], back := [], waiting := #[] } : Drafts).enter boundaries
      [(tables.items.root, TokenSet.single tables.endOfText)] |>.2
  (saturate (step tables boundaries) 100000 start).states

end Drafts

end UnitCache.Grammar
