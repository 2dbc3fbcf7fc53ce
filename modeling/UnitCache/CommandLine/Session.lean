import UnitCache.Engine
/-!
A cache in the hands of one thread, which goes through its operations from start to end. Nobody takes jobs out of the
queue meanwhile, and no job has a callback.
-/
namespace UnitCache.CommandLine

structure Session where
  engine : Engine
  store : Store Artifact Empty
  world : World
  warnings : List Warning := []
  deriving Inhabited

namespace Session

def start (configuration : Configuration) (world : World) : Except Error Session := do
  let engine ← Engine.select world configuration.parser
  configuration.check
  .ok { engine, world, store := .empty configuration.parser.flags configuration.cache.queueLength.toNat }

def call (session : Session) (activity : Activity Artifact Empty) (call : EngineCall) :
    Turn Artifact Empty × Session :=
  match call with
  | .parse request _ =>
    let (answer, world) := session.engine.parse session.world request
    (activity.afterParse session.store answer, { session with world })
  | .reparse handle _ =>
    match session.store.artifact? handle.number with
    | none => (activity.afterReparse session.store .panic, session)
    | some artifact =>
      let (answer, world) := artifact.reparse session.world
      (activity.afterReparse session.store answer, { session with world })
  | .complete handle line column _ =>
    match session.store.artifact? handle.number with
    | none => (activity.afterCompletion session.store .panic [], session)
    | some artifact =>
      let (answer, warnings, world) := artifact.complete handle.request.path line column session.world
      (activity.afterCompletion session.store answer warnings, { session with world })

/-- Goes through an operation to its end; none if it has to wait. `fuel` bounds the number of its activities. -/
def perform : Nat → Session → Activity Artifact Empty → Option Outcome × Session
  | 0, session, _ => (none, session)
  | fuel + 1, session, activity =>
    let (turn, session) :=
      match activity.step false session.store with
      | .engine call => session.call activity call
      | turn => (turn, session)
    match turn with
    | .next store activity warnings =>
      perform fuel { session with store, warnings := session.warnings ++ warnings } activity
    | .done store outcome warnings => (some outcome, { session with store, warnings := session.warnings ++ warnings })
    | _ => (none, session)

/-- More activities than an operation has in a cache that nobody else uses. -/
def activityBound : Nat := 16

def getUnit (session : Session) (request : Request) : Option Handle × Session :=
  match session.perform activityBound (.lookUp request) with
  | (some (.unit handle), session) => (handle, session)
  | (_, session) => (none, session)

def diagnostics (session : Session) (handle : Handle) : List Diagnostic :=
  ((session.store.artifact? handle.number).map Artifact.diagnostics).getD []

/-- Answers a question for completions; none if the engine panics. -/
def complete (session : Session) (query : CompletionQuery) : Option (Except Error CompletionResult) × Session :=
  match session.perform activityBound (.ask query) with
  | (some (.completed result), session) => (some result, session)
  | (_, session) => (none, session)

end Session

end UnitCache.CommandLine
