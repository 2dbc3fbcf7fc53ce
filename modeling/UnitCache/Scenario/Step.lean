import UnitCache.Cache.Activity
import UnitCache.Diagnostic
import UnitCache.World

namespace UnitCache.Scenario

inductive HookPoint where
  | parse
  | reparse
  deriving DecidableEq, Inhabited, Repr

def HookPoint.name : HookPoint → String
  | .parse => "parse"
  | .reparse => "reparse"

/-- A step. A slot is a name under which a handle is kept. -/
inductive Step where
  | getUnit (request : Request) (unsaved : List Path) (slot : Option String)
  | peek (path : Path) (slot : Option String)
  | isParsing (path : Path)
  | addParse (request : Request) (callback : Option (List Step))
  | addReparse (request : Request) (callback : Option (List Step))
  | refreshAll
  | complete (query : CompletionQuery)
  | stats
  | supportsUnsaved
  | engineName
  | debugCache
  | dropCache
  | hook (path : Path) (point : HookPoint) (steps : List Step)
  | failOn (path : Path)
  | succeedOn (path : Path)
  | panicOn (path : Path)
  | panicOff (path : Path)
  | failReparses (fail : Bool)
  | setCandidates (candidates : List Candidate)
  | setDiagnostics (path : Path) (diagnostics : List Diagnostic)
  | failCompletions (error : Option Error)
  | closeGate
  | openGate
  | engineCounters
  | put (file : Path) (entry : Entry)
  | remove (file : Path)
  | sleep (milliseconds : Nat)
  | awaitBlocked (count : Nat)
  | awaitQueued (count : Nat)
  | awaitReparses (count : Nat)
  | dropSlot (slot : String)
  | showSlot (slot : String)
  | slotServes (slot : String) (options : List String) (script : Option String)
  | slotRequest (slot : String) (other : Option Request)
  | lockSlot (slot : String)
  | unlockSlot (slot : String)
  | tryLockSlot (slot : String)
  | reparseSlot (slot : String) (flags : ParseFlags)
  | completeSlot (slot : String) (line column : UInt32)
  | slotDiagnostics (slot : String)
  | debugSlot (slot : String)
  | debugJob (request : Request) (hasCallback : Bool)
  | evictSlot (slot : String)
  | spawn (thread : String) (step : Step)
  | isFinished (thread : String)
  | join (thread : String)
  | panic
  | runNext
  | runJob (request : Request) (kind : JobKind) (callback : Option (List Step))
  | submit (request : Request) (kind : JobKind)
  | parseNow (request : Request)
  | compile (request : Request)
  | reparseNow (request : Request)
  | mark (path : Path)
  | closeQueue
  deriving Inhabited

structure Callback where
  path : Path
  steps : List Step
  deriving Inhabited

abbrev Job := UnitCache.Job Callback

def jobFor (request : Request) (kind : JobKind) (steps : Option (List Step)) : Job :=
  { request, kind, callback := steps.map fun steps => ⟨request.path, steps⟩ }

mutual

def Step.size : Step → Nat
  | .addParse _ (some steps) | .addReparse _ (some steps) | .runJob _ _ (some steps) | .hook _ _ steps =>
    1 + sizes steps
  | .spawn _ step => 1 + step.size
  | _ => 1

def sizes : List Step → Nat
  | [] => 0
  | step :: rest => step.size + sizes rest

end

/-- A unit as it is shown: under a number given in the order in which units are first seen. -/
structure UnitView where
  id : Nat
  request : Request
  deriving DecidableEq, Inhabited, Repr

structure JobView where
  kind : JobKind
  request : Request
  hasCallback : Bool
  deriving DecidableEq, Inhabited, Repr

def JobView.of (job : Job) : JobView := ⟨job.kind, job.request, job.callback.isSome⟩

structure EngineCounters where
  parses : Nat := 0
  reparses : Nat := 0
  completions : Nat := 0
  disposed : Nat := 0
  maxInFlight : Nat := 0
  deriving DecidableEq, Inhabited, Repr

inductive Reply where
  | ok
  | unit (view : Option UnitView)
  | parsing (value : Bool)
  | queued (value : Bool)
  | queuedCount (count : Nat)
  | completed (result : CompletionResult)
  | failed (error : Error)
  | stats (stats : CacheStats)
  | supports (value : Bool)
  | name (text : String)
  | text (text : String)
  | engine (counters : EngineCounters)
  | dropped (value : Bool)
  | serves (value : Bool)
  | request (request : Request) (same : Option Bool)
  | unlocked (value : Bool)
  | free (value : Bool)
  | reparsed (path : Path)
  | candidates (candidates : List Candidate)
  | diagnostics (diagnostics : List Diagnostic)
  | finished (value : Bool)
  | ran (job : Option JobView) (panicked : Bool)
  | marked (value : Bool)
  | closed (value : Bool)
  | noCache
  | panic
  | stuck
  deriving Inhabited

/-- What steps gave that were taken inside others. -/
inductive Nested where
  | callback (path : Path) (replies : List Reply)
  | hook (point : HookPoint) (path : Path) (replies : List Reply)
  deriving Inhabited

end UnitCache.Scenario
