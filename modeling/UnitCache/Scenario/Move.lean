import UnitCache.Scenario.Start

namespace UnitCache.Scenario

/-- Whether a step lets panics pass. Only a step that does a job does not. -/
def Wish.letsPass : Wish → Bool
  | .ran _ => false
  | _ => true

namespace Machine

def conclude (machine : Machine) (wish : Wish) (outcome : Outcome) : Reply × Machine :=
  match wish, outcome with
  | .ran job, .panicked => (.ran (some job) true, machine)
  | .ran job, _ => (.ran (some job) false, machine)
  | .unit slot, .unit handle => machine.present handle slot
  | .queued, .queued accepted => (.queued accepted, machine)
  | .queuedCount, .refreshed count => (.queuedCount count, machine)
  | .completed, .completed (.ok result) => (.completed result, machine)
  | .completed, .completed (.error error) => (.failed error, machine)
  | .hold slot handle, _ => (.ok, { machine with locks := (slot, handle) :: machine.locks })
  | .diagnostics handle, _ =>
    let diagnostics := ((machine.store.artifact? handle.number).map Product.diagnostics).getD []
    (.diagnostics diagnostics, { machine with store := machine.store.unlock handle.number })
  | .reparsed path, .reparsed (.ok ()) => (.reparsed path, machine)
  | .reparsed _, .reparsed (.error error) => (.failed error, machine)
  | .candidates, .candidates (.ok candidates) => (.candidates candidates, machine)
  | .candidates, .candidates (.error error) => (.failed error, machine)
  | _, _ => (.ok, machine)

/-- Ends an operation. A panic goes on to what the step was taken for. -/
def finish (machine : Machine) (outcome : Outcome) : List Level → Machine × List Level
  | .expect wish :: rest =>
    match outcome, wish.letsPass with
    | .panicked, true => (machine, .unwinding :: rest)
    | outcome, _ =>
      let (reply, machine) := machine.conclude wish outcome
      machine.answer reply rest
  | .guard path :: _ =>
    match outcome with
    | .panicked => (machine.warn [.jobPanicked path], [.finished .panic])
    | _ => (machine, [.finished .ok])
  | _ => (machine, [.finished .ok])

def follow (machine : Machine) (activity : Activity Product Callback) (rest : List Level) :
    Turn Product Callback → Option (Machine × List Level)
  | .next store activity warnings => some ({ machine with store }.warn warnings, .activity activity :: rest)
  | .done store outcome warnings => some (({ machine with store }.warn warnings).finish outcome rest)
  | .engine call => some (machine, .call call .arriving :: .activity activity :: rest)
  | .callback callback =>
    some (machine, .script (.callback callback.path) callback.steps [] :: .activity activity :: rest)
  | .waits => none

def failCall (machine : Machine) (call : EngineCall) (activity : Activity Product Callback) (rest : List Level) :
    Option (Machine × List Level) :=
  let after :=
    match call with
    | .parse .. => activity.afterParse machine.store .panic
    | .reparse .. => activity.afterReparse machine.store .panic
    | .complete .. => activity.afterCompletion machine.store .panic []
  machine.follow activity rest after

def arrive (machine : Machine) (point : HookPoint) (path : Path) (call : EngineCall) (below : List Level) :
    Machine × List Level :=
  let (hook, engine) := machine.engine.takeHook point path
  let rest := .call call .arrived :: below
  match hook with
  | some steps => ({ machine with engine }, .script (.hook point path) steps [] :: rest)
  | none => ({ machine with engine }, rest)

def callScripted (machine : Machine) (call : EngineCall) (stage : CallStage) (activity : Activity Product Callback)
    (rest : List Level) : Option (Machine × List Level) :=
  let below := .activity activity :: rest
  match call, stage with
  | .parse request flags, .arriving =>
    some ((machine.onEngine (·.note .parse flags)).arrive .parse request.path call below)
  | .parse request _, .arrived =>
    if machine.engine.panicsOn request.path then machine.failCall call activity rest
    else some (machine.onEngine (·.enter request), .call call .atGate :: below)
  | .parse request _, .atGate =>
    if machine.engine.gateClosed then none
    else
      let (answer, engine) := machine.engine.leave request
      { machine with engine }.follow activity rest (activity.afterParse machine.store (answer.map .scripted))
  | .reparse handle flags, .arriving =>
    some ((machine.onEngine (·.note .reparse flags)).arrive .reparse handle.request.path call below)
  | .reparse handle _, _ =>
    let (answer, engine) := machine.engine.reparse handle.request.path
    { machine with engine }.follow activity rest (activity.afterReparse machine.store (answer.map .scripted))
  | .complete _ _ _ flags, _ =>
    let (answer, engine) := (machine.engine.note .complete flags).complete
    { machine with engine }.follow activity rest (activity.afterCompletion machine.store answer [])

def callEngine (machine : Machine) (call : EngineCall) (stage : CallStage) (activity : Activity Product Callback)
    (rest : List Level) : Option (Machine × List Level) :=
  let scripted := machine.callScripted call stage activity rest
  match call with
  | .parse request _ =>
    match machine.choice with
    | .scripted => scripted
    | .real engine =>
      let (answer, world) := engine.parse machine.world request
      { machine with world }.follow activity rest (activity.afterParse machine.store (answer.map .built))
  | .reparse handle _ =>
    match machine.store.artifact? handle.number with
    | some (.built artifact) =>
      let (answer, world) := artifact.reparse machine.world
      { machine with world }.follow activity rest (activity.afterReparse machine.store (answer.map .built))
    | _ => scripted
  | .complete handle line column _ =>
    match machine.store.artifact? handle.number with
    | some (.built artifact) =>
      let (answer, warnings, world) := artifact.complete handle.request.path line column machine.world
      { machine with world }.follow activity rest (activity.afterCompletion machine.store answer warnings)
    | _ => scripted

/-- Ends a row of steps. In a callback a panic goes on to the job that it is for. -/
def close (machine : Machine) (origin : Origin) (replies : List Reply) (panicked : Bool) (rest : List Level) :
    Option (Machine × List Level) :=
  let machine := { machine with nested := machine.nested ++ [origin.nested replies] }
  match origin, rest with
  | .callback _, .activity activity :: rest =>
    machine.follow activity rest (Activity.afterCallback machine.store panicked)
  | _, rest => some (machine, rest)

/-- Leaves a row of steps after a panic: what they were taken in panics too, and their replies are lost. -/
def unwind (machine : Machine) : List Level → Option (Machine × List Level)
  | .script .. :: .call call _ :: .activity activity :: rest => machine.failCall call activity rest
  | .script .. :: .activity activity :: rest =>
    machine.follow activity rest (Activity.afterCallback machine.store true)
  | _ => some (machine, [.finished .panic])

def turn (machine : Machine) (thread : Thread) : Option (Machine × List Level) :=
  match thread.stack with
  | .perform step :: rest => some (machine.start (works thread) step rest)
  | .script origin [] replies :: rest => machine.close origin replies false rest
  | .script origin (.panic :: _) replies :: rest => machine.close origin replies true rest
  | .script origin (step :: left) replies :: rest =>
    some (machine, .perform step :: .script origin left replies :: rest)
  | .activity activity :: rest =>
    machine.follow activity rest (activity.step thread.background machine.store)
  | .call call stage :: .activity activity :: rest => machine.callEngine call stage activity rest
  | .await condition reply :: rest => if machine.holds condition then some (machine.answer reply rest) else none
  | .unwinding :: rest => machine.unwind rest
  | .join name :: rest => (machine.resultOf? name).map fun reply => machine.answer reply rest
  | _ => none

def moveThread (machine : Machine) (index : Nat) : Option Machine := do
  let thread ← machine.threads[index]?
  let (machine, stack) ← machine.turn thread
  some { machine with threads := machine.threads.modify index fun thread => { thread with stack } }

def dismiss (machine : Machine) : Machine :=
  { machine with threads := machine.threads.filter fun thread => !(works thread && thread.reply?.isSome) }

/-- Lets an idle worker take the next job, or else the ticker have all units built anew if it is time. -/
def employ (machine : Machine) : Option Machine :=
  let idle := machine.hasCache && machine.busyWorkers < machine.workers
  match if idle then machine.store.dequeue else none with
  | some (job, store) =>
    let thread : Thread :=
      { role := .worker, background := true, stack := [.activity (.ofJob job), .guard job.request.path] }
    some { machine with store, threads := machine.threads ++ [thread] }
  | none =>
    if machine.ticks == 0 || machine.threads.any (fun thread => thread.role == .ticker) then none
    else
      let thread : Thread := { role := .ticker, background := true, stack := [.activity .collect] }
      some { machine with ticks := machine.ticks - 1, threads := machine.threads ++ [thread] }

def move (machine : Machine) : Option Machine :=
  match (List.range machine.threads.length).findSome? machine.moveThread with
  | some machine => some machine.dismiss
  | none => machine.employ

end Machine

end UnitCache.Scenario
