import UnitCache.Scenario.Machine

namespace UnitCache.Scenario

def Step.needsCache : Step → Bool
  | .getUnit .. | .peek .. | .isParsing _ | .addParse .. | .addReparse .. | .refreshAll | .complete _ | .stats
  | .supportsUnsaved | .engineName | .debugCache | .awaitQueued _ | .awaitReparses _ | .evictSlot _ | .runNext
  | .runJob .. | .submit .. | .parseNow _ | .compile _ | .reparseNow _ | .mark _ | .closeQueue => true
  | _ => false

def deliver (reply : Reply) : List Level → List Level
  | .script origin left replies :: rest => .script origin left (replies ++ [reply]) :: rest
  | _ => [.finished reply]

namespace Machine

def answer (machine : Machine) (reply : Reply) (rest : List Level) : Machine × List Level :=
  (machine, deliver reply rest)

def operate (machine : Machine) (activity : Activity Product Callback) (wish : Wish) (rest : List Level) :
    Machine × List Level :=
  (machine, .activity activity :: .expect wish :: rest)

def wait (machine : Machine) (condition : Condition) (reply : Reply) (rest : List Level) : Machine × List Level :=
  (machine, .await condition reply :: rest)

/-- Does something with the handle in a slot; an empty slot is shown as no unit. -/
def withSlot (machine : Machine) (slot : String) (rest : List Level)
    (use : Handle → Machine × List Level) : Machine × List Level :=
  match machine.slot? slot with
  | some handle => use handle
  | none => machine.answer (.unit none) rest

def tell (machine : Machine) (rest : List Level) (change : ScriptedEngine → ScriptedEngine) : Machine × List Level :=
  (machine.onEngine change).answer .ok rest

def runJob (machine : Machine) (job : Job) (rest : List Level) : Machine × List Level :=
  machine.operate (.ofJob job) (.ran (.of job)) rest

def runNext (machine : Machine) (rest : List Level) : Machine × List Level :=
  match machine.store.dequeue with
  | none => machine.answer (.ran none false) rest
  | some (job, store) => { machine with store }.runJob job rest

def dropCache (machine : Machine) (worker : Bool) (rest : List Level) : Machine × List Level :=
  if machine.hasCache then
    let store := { machine.store with queue := { machine.store.queue with jobs := [] } }
    let machine := { machine with hasCache := false, store := store.closeQueue, ticks := 0 }
    machine.wait (.working (if worker then 1 else 0)) (.dropped true) rest
  else machine.answer (.dropped false) rest

def unlockSlot (machine : Machine) (slot : String) (rest : List Level) : Machine × List Level :=
  match machine.locks.lookup slot with
  | none => machine.answer (.unlocked false) rest
  | some handle =>
    let locks := machine.locks.filter fun entry => entry.1 != slot
    { machine with locks, store := machine.store.unlock handle.number }.answer (.unlocked true) rest

def startWithSlot (machine : Machine) (rest : List Level) (handle : Handle) : Step → Machine × List Level
  | .showSlot _ =>
    let (reply, machine) := machine.view? (some handle)
    machine.answer reply rest
  | .slotServes _ options script =>
    machine.answer (.serves (handle.request.serves { handle.request with options, script })) rest
  | .slotRequest _ other => machine.answer (.request handle.request (other.map handle.request.same)) rest
  | .lockSlot slot => machine.operate (.acquire handle .hold) (.hold slot handle) rest
  | .tryLockSlot _ => machine.answer (.free (!machine.store.isLocked handle.number)) rest
  | .reparseSlot _ flags => machine.operate (.acquire handle (.reparse flags)) (.reparsed handle.request.path) rest
  | .completeSlot _ line column =>
    machine.operate (.acquire handle (.complete line column .empty)) .candidates rest
  | .slotDiagnostics _ => machine.operate (.acquire handle .hold) (.diagnostics handle) rest
  | .debugSlot _ => machine.answer (.text (handle.text (machine.store.isLocked handle.number))) rest
  | .evictSlot _ => { machine with store := machine.store.evictIfCurrent handle }.answer .ok rest
  | _ => machine.answer .ok rest

def startTelling (machine : Machine) (rest : List Level) : Step → Machine × List Level
  | .hook path point steps =>
    machine.tell rest fun engine => { engine with hooks := engine.hooks ++ [⟨path, point, steps⟩] }
  | .failOn path => machine.tell rest fun engine => { engine with failing := engine.failing.insert path () }
  | .succeedOn path => machine.tell rest fun engine => { engine with failing := engine.failing.erase path }
  | .panicOn path => machine.tell rest fun engine => { engine with panicking := engine.panicking.insert path () }
  | .panicOff path => machine.tell rest fun engine => { engine with panicking := engine.panicking.erase path }
  | .failReparses fail => machine.tell rest fun engine => { engine with failsReparses := fail }
  | .setCandidates candidates => machine.tell rest fun engine => { engine with candidates }
  | .setDiagnostics path diagnostics =>
    machine.tell rest fun engine => { engine with diagnostics := engine.diagnostics.insert path diagnostics }
  | .failCompletions error => machine.tell rest fun engine => { engine with completionError := error }
  | .closeGate => machine.tell rest fun engine => { engine with gateClosed := true }
  | .openGate => machine.tell rest fun engine => { engine with gateClosed := false }
  | _ => machine.answer .ok rest

def startAtCache (machine : Machine) (rest : List Level) : Step → Machine × List Level
  | .getUnit request unsaved slot =>
    (machine.warn (Activity.unsavedWarnings request unsaved)).operate (.lookUp request) (.unit slot) rest
  | .peek path slot =>
    let (reply, machine) := machine.present (machine.store.peek path) slot
    machine.answer reply rest
  | .isParsing path => machine.answer (.parsing (machine.store.isParsing path)) rest
  | .addParse request callback =>
    machine.operate (.admitParse (jobFor request .parse callback) .queued) .queued rest
  | .addReparse request callback =>
    machine.operate (.admitReparse (jobFor request .reparse callback) .queued) .queued rest
  | .refreshAll => machine.operate .collect .queuedCount rest
  | .complete query => machine.operate (.ask query) .completed rest
  | .stats => machine.answer (.stats machine.store.stats) rest
  | .supportsUnsaved => machine.answer (.supports false) rest
  | .engineName => machine.answer (.name machine.engineName) rest
  | .debugCache => machine.answer (.text machine.debugText) rest
  | .awaitQueued count => machine.wait (.queued count) .ok rest
  | .awaitReparses count => machine.wait (.reparses count) .ok rest
  | .runNext => machine.runNext rest
  | .runJob request kind callback => machine.runJob (jobFor request kind callback) rest
  | .submit request kind => machine.operate (.enqueue (jobFor request kind none) .queued) .queued rest
  | .parseNow request => machine.operate (.load request .alone) (.unit none) rest
  | .compile request => machine.operate (.build request .alone) (.unit none) rest
  | .reparseNow request => machine.operate (.find request .alone) .ok rest
  | .mark path =>
    { machine with store := machine.store.mark path }.answer (.marked (!machine.store.isParsing path)) rest
  | .closeQueue =>
    { machine with store := machine.store.closeQueue }.answer (.closed machine.store.queue.isOpen) rest
  | _ => machine.answer .ok rest

/-- Begins a step. `worker` tells whether its thread works for the cache. -/
def start (machine : Machine) (worker : Bool) (step : Step) (rest : List Level) : Machine × List Level :=
  if step.needsCache && !machine.hasCache then machine.answer .noCache rest
  else
    match step with
    | .dropCache => machine.dropCache worker rest
    | .engineCounters => machine.answer (.engine machine.counters) rest
    | .put file entry => { machine with world := machine.world.onDisk (·.put file entry) }.answer .ok rest
    | .remove file => { machine with world := machine.world.onDisk (·.remove file) }.answer .ok rest
    | .sleep milliseconds =>
      let ticks := (machine.refreshInterval.map fun interval => milliseconds / interval).getD 0
      { machine with ticks := machine.ticks + ticks }.answer .ok rest
    | .awaitBlocked count => machine.wait (.blocked count) .ok rest
    | .dropSlot slot =>
      let slots := machine.slots.filter fun entry => entry.1 != slot
      { machine with slots }.answer (.dropped (machine.slot? slot).isSome) rest
    | .unlockSlot slot => machine.unlockSlot slot rest
    | .debugJob request hasCallback =>
      machine.answer (.text (jobFor request .parse (if hasCallback then some [] else none)).text) rest
    | .spawn name step =>
      let thread : Thread := { role := .spawned name, background := false, stack := [.perform step] }
      { machine with threads := machine.threads ++ [thread] }.answer .ok rest
    | .isFinished name => machine.answer (.finished (machine.resultOf? name).isSome) rest
    | .join name => (machine, .join name :: rest)
    | .panic => machine.answer .panic rest
    | .showSlot slot | .slotServes slot .. | .slotRequest slot _ | .lockSlot slot | .tryLockSlot slot
    | .reparseSlot slot _ | .completeSlot slot .. | .slotDiagnostics slot | .debugSlot slot | .evictSlot slot =>
      machine.withSlot slot rest fun handle => machine.startWithSlot rest handle step
    | step => if step.needsCache then machine.startAtCache rest step else machine.startTelling rest step

end Machine

end UnitCache.Scenario
