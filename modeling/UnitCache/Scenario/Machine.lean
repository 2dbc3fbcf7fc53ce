import UnitCache.Engine
import UnitCache.Scenario.Scripted
/-!
A cache with its threads, written out as a value. What a thread has still to do is a stack of levels, the innermost
first: each level waits for what the one above it gives.
-/
namespace UnitCache.Scenario

inductive Product where
  | scripted (unit : ScriptedUnit)
  | built (artifact : Artifact)
  deriving Inhabited

def Product.diagnostics : Product → List Diagnostic
  | .scripted unit => unit.diagnostics
  | .built artifact => artifact.diagnostics

inductive Origin where
  | callback (path : Path)
  | hook (point : HookPoint) (path : Path)
  deriving Inhabited

def Origin.nested (origin : Origin) (replies : List Reply) : Nested :=
  match origin with
  | .callback path => .callback path replies
  | .hook point path => .hook point path replies

inductive Wish where
  | unit (slot : Option String)
  | queued
  | queuedCount
  | completed
  | ran (job : JobView)
  | ok
  | hold (slot : String) (handle : Handle)
  | diagnostics (handle : Handle)
  | reparsed (path : Path)
  | candidates
  deriving Inhabited

inductive Condition where
  | blocked (count : Nat)
  | queued (count : Nat)
  | reparses (count : Nat)
  | working (threads : Nat)
  deriving Inhabited

inductive CallStage where
  | arriving
  /-- The steps of a hook were taken, if there was one. -/
  | arrived
  | atGate
  deriving DecidableEq, Inhabited, Repr

inductive Level where
  | perform (step : Step)
  | script (origin : Origin) (left : List Step) (replies : List Reply)
  | activity (activity : Activity Product Callback)
  | call (call : EngineCall) (stage : CallStage)
  /-- Make a reply of how the operation above ends. -/
  | expect (wish : Wish)
  | await (condition : Condition) (reply : Reply)
  | join (thread : String)
  | guard (path : Path)
  /-- Leave the levels below, after a panic. -/
  | unwinding
  | finished (reply : Reply)
  deriving Inhabited

inductive Role where
  | main
  | spawned (name : String)
  | worker
  /-- The thread that has all units built anew from time to time. -/
  | ticker
  deriving DecidableEq, Inhabited, Repr

structure Thread where
  role : Role
  background : Bool
  stack : List Level
  deriving Inhabited

def Thread.reply? (thread : Thread) : Option Reply :=
  match thread.stack with
  | [.finished reply] => some reply
  | _ => none

inductive EngineChoice where
  | scripted
  | real (engine : Engine)
  deriving DecidableEq, Inhabited, Repr

structure Machine where
  choice : EngineChoice
  store : Store Product Callback
  engine : ScriptedEngine := {}
  world : World := {}
  threads : List Thread := []
  workers : Nat := 0
  refreshInterval : Option Nat := none
  ticks : Nat := 0
  hasCache : Bool := true
  slots : List (String × Handle) := []
  locks : List (String × Handle) := []
  /-- The numbers of the units that were shown, in that order. -/
  seen : List Nat := []
  nested : List Nested := []
  warnings : List Warning := []
  deriving Inhabited

namespace Machine

def warn (machine : Machine) (warnings : List Warning) : Machine :=
  { machine with warnings := machine.warnings ++ warnings }

def onEngine (machine : Machine) (change : ScriptedEngine → ScriptedEngine) : Machine :=
  { machine with engine := change machine.engine }

def engineName (machine : Machine) : String :=
  match machine.choice with
  | .scripted => ScriptedEngine.name
  | .real engine => engine.name

def debugText (machine : Machine) : String :=
  "TranslationUnitCache \x7b engine: " ++ Text.quoted machine.engineName ++ ", stats: "
    ++ machine.store.stats.text ++ " \x7d"

def slot? (machine : Machine) (slot : String) : Option Handle := machine.slots.lookup slot

def keepIn (machine : Machine) (slot : String) (handle : Handle) : Machine :=
  { machine with slots := (slot, handle) :: machine.slots.filter fun entry => entry.1 != slot }

def view (machine : Machine) (handle : Handle) : UnitView × Machine :=
  match machine.seen.idxOf? handle.number with
  | some id => (⟨id, handle.request⟩, machine)
  | none => (⟨machine.seen.length, handle.request⟩, { machine with seen := machine.seen ++ [handle.number] })

def view? (machine : Machine) (handle : Option Handle) : Reply × Machine :=
  match handle with
  | none => (.unit none, machine)
  | some handle =>
    let (view, machine) := machine.view handle
    (.unit (some view), machine)

def present (machine : Machine) (handle : Option Handle) (slot : Option String) : Reply × Machine :=
  let (reply, machine) := machine.view? handle
  match handle, slot with
  | some handle, some slot => (reply, machine.keepIn slot handle)
  | _, _ => (reply, machine)

def works (thread : Thread) : Bool := thread.role == .worker || thread.role == .ticker

def busyWorkers (machine : Machine) : Nat := (machine.threads.filter fun thread => thread.role == .worker).length

def levelHandles : Level → List Handle
  | .activity activity => activity.handles
  | _ => []

/-- The handles that somebody holds. The units of a cache that was given up are gone once its threads are. -/
def heldHandles (machine : Machine) : List Handle :=
  let inCache := if machine.hasCache || machine.threads.any works then machine.store.units.values else []
  inCache ++ machine.slots.map Prod.snd ++ machine.locks.map Prod.snd
    ++ machine.threads.flatMap fun thread => thread.stack.flatMap levelHandles

def disposed (machine : Machine) : Nat :=
  machine.store.cells.length - ((machine.heldHandles.map Handle.number).eraseDups).length

def counters (machine : Machine) : EngineCounters := { machine.engine.counters with disposed := machine.disposed }

def holds (machine : Machine) : Condition → Bool
  | .blocked count => count ≤ machine.engine.waiting
  | .queued count => count ≤ machine.store.queue.jobs.length
  | .reparses count => count ≤ machine.store.counters.reparses.toNat
  | .working count => (machine.threads.filter works).length ≤ count

def resultOf? (machine : Machine) (name : String) : Option Reply :=
  (machine.threads.find? fun thread => thread.role == .spawned name).bind Thread.reply?

end Machine

end UnitCache.Scenario
