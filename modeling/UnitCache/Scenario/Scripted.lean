import UnitCache.Scenario.Step
/-!
An engine that does as it is told. It reads no files; it counts what it is asked for, and it can be made to fail, to
panic, to take steps at a call, and to keep parses waiting at a gate.
-/
namespace UnitCache.Scenario

structure Hook where
  path : Path
  point : HookPoint
  steps : List Step
  deriving Inhabited

inductive CallKind where
  | parse
  | reparse
  | complete
  deriving DecidableEq, Inhabited, Repr

def CallKind.name : CallKind → String
  | .parse => "parse"
  | .reparse => "reparse"
  | .complete => "complete"

/-- A unit of the engine: its file, and the diagnostics that were set when it was last built. -/
structure ScriptedUnit where
  path : Path
  diagnostics : List Diagnostic
  deriving DecidableEq, Inhabited, Repr

structure ScriptedEngine where
  failing : PathSet := {}
  panicking : PathSet := {}
  failsReparses : Bool := false
  candidates : List Candidate := []
  diagnostics : PathMap (List Diagnostic) := {}
  completionError : Option Error := none
  hooks : List Hook := []
  gateClosed : Bool := false
  waiting : Nat := 0
  inFlight : PathMap Nat := {}
  counters : EngineCounters := {}
  calls : List (Path × List String) := []
  log : List (CallKind × ParseFlags) := []
  deriving Inhabited

namespace ScriptedEngine

def name : String := "mock"

def note (engine : ScriptedEngine) (kind : CallKind) (flags : ParseFlags) : ScriptedEngine :=
  { engine with log := engine.log ++ [(kind, flags)] }

def takeHook (engine : ScriptedEngine) (point : HookPoint) (path : Path) : Option (List Step) × ScriptedEngine :=
  let wanted (hook : Hook) : Bool := hook.point == point && hook.path == path
  match engine.hooks.find? wanted with
  | none => (none, engine)
  | some hook => (some hook.steps, { engine with hooks := engine.hooks.eraseP wanted })

def panicsOn (engine : ScriptedEngine) (path : Path) : Bool := engine.panicking.contains path

def diagnosticsFor (engine : ScriptedEngine) (path : Path) : List Diagnostic := (engine.diagnostics.get? path).getD []

def enter (engine : ScriptedEngine) (request : Request) : ScriptedEngine :=
  let count := (engine.inFlight.get? request.path).getD 0 + 1
  let counters := engine.counters
  { engine with
    counters := { counters with parses := counters.parses + 1, maxInFlight := max counters.maxInFlight count }
    calls := engine.calls ++ [(request.path, request.options)]
    inFlight := engine.inFlight.insert request.path count
    waiting := engine.waiting + 1 }

def leave (engine : ScriptedEngine) (request : Request) : Answer ScriptedUnit × ScriptedEngine :=
  let count := (engine.inFlight.get? request.path).getD 0
  let answer :=
    if engine.failing.contains request.path then
      .error (.reported .parse ("scripted failure for " ++ request.path.text))
    else .ok ⟨request.path, engine.diagnosticsFor request.path⟩
  (answer, { engine with
    inFlight := engine.inFlight.insert request.path (count - 1)
    waiting := engine.waiting - 1 })

def reparse (engine : ScriptedEngine) (path : Path) : Answer ScriptedUnit × ScriptedEngine :=
  let counters := engine.counters
  let answer :=
    if engine.failsReparses then .error (.reported .parse ("scripted reparse failure for " ++ path.text))
    else .ok ⟨path, engine.diagnosticsFor path⟩
  (answer, { engine with counters := { counters with reparses := counters.reparses + 1 } })

def complete (engine : ScriptedEngine) : Answer (List Candidate) × ScriptedEngine :=
  let counters := engine.counters
  let answer :=
    match engine.completionError with
    | some error => .error error
    | none => .ok engine.candidates
  (answer, { engine with counters := { counters with completions := counters.completions + 1 } })

end ScriptedEngine

end UnitCache.Scenario
