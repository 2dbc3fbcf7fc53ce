import UnitCache.Scenario.Move
/-!
Scenarios: steps taken one after the other. Behind each of them all threads go on until none can, so that what the
next step sees does not hang on how fast they are.
-/
namespace UnitCache.Scenario

namespace Machine

def main? (machine : Machine) : Option Thread := machine.threads.find? fun thread => thread.role == .main

def passTime (machine : Machine) : Option Machine :=
  match machine.main?.map Thread.stack, machine.refreshInterval with
  | some (.await (.reparses _) _ :: _), some _ =>
    if machine.hasCache && machine.ticks == 0 then some { machine with ticks := 1 } else none
  | _, _ => none

/-- Lets the threads go on until none can; `fuel` bounds how often. -/
def settle : Nat → Machine → Machine
  | 0, machine => machine
  | fuel + 1, machine =>
    match machine.move with
    | some machine => settle fuel machine
    | none =>
      match machine.passTime with
      | some machine => settle fuel machine
      | none => machine

def takeStep (machine : Machine) (background : Bool) (fuel : Nat) (step : Step) : Reply × Machine :=
  let main : Thread := { role := .main, background, stack := [.perform step] }
  let machine := settle fuel { machine with threads := main :: machine.threads }
  let reply := (machine.main?.bind Thread.reply?).getD .stuck
  (reply, { machine with threads := machine.threads.filter fun thread => thread.role != .main })

def takeSteps (machine : Machine) (background : Bool) (fuel : Nat) : List Step → List Reply × Machine
  | [] => ([], machine)
  | step :: rest =>
    let (reply, machine) := machine.takeStep background fuel step
    let (replies, machine) := takeSteps machine background fuel rest
    (reply :: replies, machine)

end Machine

structure StoreView where
  units : List (Path × UnitView)
  parsing : List Path
  pending : List (Path × Request)
  queue : Option (List JobView)
  stats : CacheStats
  deriving Inhabited

def sortedEntries {α : Type} (map : PathMap α) : List (Path × α) :=
  map.entries.mergeSort fun left right => decide (left.1.text ≤ right.1.text)

def viewAll (machine : Machine) : List (Path × Handle) → List (Path × UnitView) × Machine
  | [] => ([], machine)
  | (path, handle) :: rest =>
    let (view, machine) := machine.view handle
    let (views, machine) := viewAll machine rest
    ((path, view) :: views, machine)

def Machine.viewStore (machine : Machine) : StoreView × Machine :=
  let store := machine.store
  let (units, machine) := viewAll machine (sortedEntries store.units)
  let view : StoreView :=
    { units
      parsing := (sortedEntries store.parsing).map Prod.fst
      pending := sortedEntries store.pending
      queue := if store.queue.isOpen then some (store.queue.jobs.map JobView.of) else none
      stats := store.stats }
  (view, machine)

structure StoreStep where
  reply : Reply
  view : StoreView
  nested : List Nested
  warnings : List Warning
  deriving Inhabited

def watchSteps (machine : Machine) (background : Bool) (fuel : Nat) : List Step → List StoreStep × Machine
  | [] => ([], machine)
  | step :: rest =>
    let (reply, machine) := machine.takeStep background fuel step
    let (view, machine) := machine.viewStore
    let done : StoreStep := { reply, view, nested := machine.nested, warnings := machine.warnings }
    let (later, machine) := watchSteps { machine with nested := [], warnings := [] } background fuel rest
    (done :: later, machine)

def fuelFor (steps : List Step) : Nat := 4096 * (1 + sizes steps)

def bareStore (flags : ParseFlags) (capacity : Nat) : Machine := { choice := .scripted, store := .empty flags capacity }

/-- Runs a scenario on a store without threads. `background` tells whether its steps are taken as if by a thread of
the cache itself. -/
def runOnStore (flags : ParseFlags) (capacity : Nat) (background : Bool) (steps : List Step) :
    List StoreStep × Machine :=
  watchSteps (bareStore flags capacity) background (fuelFor steps) steps

def newCache (choice : EngineChoice) (configuration : Configuration) (world : World) : Except Error Machine := do
  configuration.check
  .ok {
    choice
    store := .empty configuration.parser.flags configuration.cache.queueLength.toNat
    world
    workers := configuration.cache.workers.toNat
    refreshInterval := configuration.cache.refreshInterval.map UInt64.toNat }

def cacheFor (configuration : Configuration) (world : World) : Except Error Machine := do
  let engine ← Engine.select world configuration.parser
  newCache (.real engine) configuration world

def runOnCache (machine : Machine) (steps : List Step) : List Reply × Machine :=
  machine.takeSteps false (fuelFor steps) steps

end UnitCache.Scenario
