import UnitCache.Proofs.Turns

namespace UnitCache.Interleaving

open Scenario (Product Callback Level Machine Wish)

namespace Backed

variable {flags : ParseFlags} {capacity : Nat} {machine next : Machine} {others : List Scenario.Thread} {role : Role}
  {guards : List Handle} {frames : List (Frame Product Callback)} {levels : List Level}

theorem operate (backed : Backed flags capacity machine others [{ role, guards, stack := frames }])
    (context : Context role levels frames) (alike : Alike machine next) (operation : Operation Callback)
    (harmless : Harmless operation.activity) {wish : Wish} (keeps : wish.held? = none) :
    Advances flags capacity role others machine.threads (next.operate operation.activity wish levels) := by
  obtain ⟨number, stands⟩ := (backed.alike alike).stands.call (context.mayCall guards) operation
  rw [← alike.threads]
  exact Backed.advances ⟨stands, (backed.alike alike).hooks⟩
    (.active number (.operation operation) operation.activity harmless (.step wish keeps context))

theorem takes (backed : Backed flags capacity machine others [{ role, guards, stack := frames }])
    (context : Context role levels frames) {wish : Wish} {handle : Handle} (keeps : wish.held? = some handle) :
    Advances flags capacity role others machine.threads (machine.operate (.acquire handle .hold) wish levels) := by
  -- The thread itself may be busy with a callback, so that a client beside it takes the unit.
  obtain ⟨number, stands⟩ := (backed.stands.widen .client).call rfl (.hold handle)
  have turned := stands.recount fun _ accounted => accounted.perm_own (List.Perm.swap _ _ _)
  exact Backed.advances ⟨turned, backed.hooks⟩ (.holding wish handle number (.operation (.hold handle)) keeps context)

theorem startWithSlot (backed : Backed flags capacity machine others [{ role, guards, stack := frames }])
    (context : Context role levels frames) (handle : Handle) {step : Scenario.Step} (allowed : step.isOpen = true) :
    Advances flags capacity role others machine.threads (machine.startWithSlot levels handle step) := by
  have same : Alike machine machine := ⟨rfl, rfl, rfl, rfl, rfl⟩
  cases step with
  | evictSlot => cases allowed
  | showSlot slot => exact backed.deliver (alike_view? (some handle)) _ context
  | lockSlot slot => exact backed.takes context rfl
  | slotDiagnostics slot => exact backed.takes context rfl
  | reparseSlot slot given => exact backed.operate context same (.reparse handle given) (harmless_of_none rfl) rfl
  | completeSlot slot line column =>
    exact backed.operate context same (.completeIn handle line column .empty) (harmless_of_none rfl) rfl
  | _ => exact backed.deliver same _ context

theorem tell (backed : Backed flags capacity machine others [{ role, guards, stack := frames }])
    (context : Context role levels frames) {change : Scenario.ScriptedEngine → Scenario.ScriptedEngine}
    (keeps : ∀ engine, (change engine).hooks = engine.hooks) :
    Advances flags capacity role others machine.threads (machine.tell levels change) := by
  have alike : Alike machine (machine.onEngine change) := ⟨rfl, rfl, rfl, keeps machine.engine, rfl⟩
  exact backed.deliver alike .ok context

theorem startTelling (backed : Backed flags capacity machine others [{ role, guards, stack := frames }])
    (context : Context role levels frames) {step : Scenario.Step} (allowed : step.isOpen = true) :
    Advances flags capacity role others machine.threads (machine.startTelling levels step) := by
  cases step with
  | hook path point steps =>
    have told : Backed flags capacity
        (machine.onEngine fun engine => { engine with hooks := engine.hooks ++ [⟨path, point, steps⟩] }) others
        [{ role, guards, stack := frames }] := by
      refine ⟨backed.stands, ?_⟩
      intro hook inside
      rcases List.mem_append.mp inside with inside | inside
      · exact backed.hooks hook inside
      · rw [List.mem_singleton.mp inside]
        exact allowed
    exact told.deliver ⟨rfl, rfl, rfl, rfl, rfl⟩ .ok context
  | failOn | succeedOn | panicOn | panicOff | failReparses | setCandidates | setDiagnostics | failCompletions
  | closeGate | openGate => exact backed.tell context fun _ => rfl
  | _ => exact backed.deliver ⟨rfl, rfl, rfl, rfl, rfl⟩ _ context

theorem startAtCache (backed : Backed flags capacity machine others [{ role, guards, stack := frames }])
    (context : Context role levels frames) {step : Scenario.Step} (allowed : step.isOpen = true) :
    Advances flags capacity role others machine.threads (machine.startAtCache levels step) := by
  have same : Alike machine machine := ⟨rfl, rfl, rfl, rfl, rfl⟩
  cases step with
  | evictSlot | runNext | runJob | submit | parseNow | compile | reparseNow | mark | closeQueue => cases allowed
  | getUnit request unsaved slot =>
    have warned : Alike machine (machine.warn (Activity.unsavedWarnings request unsaved)) := ⟨rfl, rfl, rfl, rfl, rfl⟩
    exact backed.operate context warned (.getUnit request) (harmless_of_none rfl) (rfl : (Wish.unit slot).held? = none)
  | peek path slot => exact backed.deliver (alike_present _ slot) _ context
  | addParse request callback =>
    have harmless : Harmless (.admitParse (Scenario.jobFor request .parse callback) .queued) := by
      refine harmless_of_steps rfl ?_
      rintro given rfl
      exact allowed
    exact backed.operate context same (.addParse (Scenario.jobFor request .parse callback)) harmless rfl
  | addReparse request callback =>
    have harmless : Harmless (.admitReparse (Scenario.jobFor request .reparse callback) .queued) := by
      refine harmless_of_steps rfl ?_
      rintro given rfl
      exact allowed
    exact backed.operate context same (.addReparse (Scenario.jobFor request .reparse callback)) harmless rfl
  | refreshAll => exact backed.operate context same .refreshAll (harmless_of_none rfl) rfl
  | complete query => exact backed.operate context same (.complete query) (harmless_of_none rfl) rfl
  | awaitQueued count => exact backed.advances (.await _ _ context)
  | awaitReparses count => exact backed.advances (.await _ _ context)
  | _ => exact backed.deliver same _ context

theorem dropCache (backed : Backed flags capacity machine others [{ role, guards, stack := frames }])
    (context : Context role levels frames) (worker : Bool) :
    Advances flags capacity role others machine.threads (machine.dropCache worker levels) := by
  unfold Machine.dropCache
  split
  next living =>
    have stands := backed.stands
    rw [living] at stands
    have dropped : Backed flags capacity { machine with
        hasCache := false
        store := Store.closeQueue { machine.store with queue := { machine.store.queue with jobs := [] } }
        ticks := 0 } others [{ role, guards, stack := frames }] := ⟨stands.drop, backed.hooks⟩
    exact dropped.advances (.await _ _ context)
  next => exact backed.deliver ⟨rfl, rfl, rfl, rfl, rfl⟩ _ context

theorem unlockSlot (backed : Backed flags capacity machine others [{ role, guards, stack := frames }])
    (context : Context role levels frames) (slot : String) :
    Advances flags capacity role others machine.threads (machine.unlockSlot slot levels) := by
  unfold Machine.unlockSlot
  split
  next => exact backed.deliver ⟨rfl, rfl, rfl, rfl, rfl⟩ _ context
  next handle found =>
    have freed : Backed flags capacity { machine with
        locks := machine.locks.filter fun entry => entry.1 != slot
        store := machine.store.unlock handle.number } others [{ role, guards, stack := frames }] :=
      ⟨backed.stands.unlock found, backed.hooks⟩
    exact freed.deliver ⟨rfl, rfl, rfl, rfl, rfl⟩ _ context

theorem spawn (backed : Backed flags capacity machine others [{ role, guards, stack := frames }])
    (context : Context role levels frames) (name : String) {step : Scenario.Step} (allowed : step.isOpen = true) :
    Advances flags capacity role (others ++ [begun (.spawned name) step])
      (machine.threads ++ [begun (.spawned name) step])
      ({ machine with threads := machine.threads ++ [begun (.spawned name) step] }.answer .ok levels) := by
  have widened : Stands flags capacity machine.store machine.locks machine.hasCache others
      ([{ role := .client }] ++ [{ role, guards, stack := frames }]) := backed.stands.widen .client
  have stands : Stands flags capacity machine.store machine.locks machine.hasCache
      (others ++ [begun (.spawned name) step]) [{ role, guards, stack := frames }] := by
    have represented : RepresentedBy (begun (.spawned name) step) [{ role := .client }] :=
      representedBy_begun rfl allowed
    exact widened.recount fun _ accounted => (accounted.add represented).perm (List.perm_append_singleton _ _).symm
  have joined : Backed flags capacity { machine with threads := machine.threads ++ [begun (.spawned name) step] }
      (others ++ [begun (.spawned name) step]) [{ role, guards, stack := frames }] := ⟨stands, backed.hooks⟩
  exact joined.deliver ⟨rfl, rfl, rfl, rfl, rfl⟩ .ok context

/-- What a step begins. It may begin another thread besides. -/
theorem start (backed : Backed flags capacity machine others [{ role, guards, stack := frames }])
    (context : Context role levels frames) (worker : Bool) {step : Scenario.Step} (allowed : step.isOpen = true) :
    ∃ added, Advances flags capacity role (others ++ added) (machine.threads ++ added)
      (machine.start worker step levels) := by
  have slotted (slot : String) : Advances flags capacity role others machine.threads
      (machine.withSlot slot levels fun handle => machine.startWithSlot levels handle step) := by
    unfold Machine.withSlot
    split
    next => exact backed.startWithSlot context _ allowed
    next => exact backed.deliver ⟨rfl, rfl, rfl, rfl, rfl⟩ _ context
  unfold Machine.start
  split
  next => exact (backed.deliver ⟨rfl, rfl, rfl, rfl, rfl⟩ _ context).alone
  next =>
    cases step with
    | dropCache => exact (backed.dropCache context worker).alone
    | engineCounters | debugJob | isFinished | panic => exact (backed.deliver ⟨rfl, rfl, rfl, rfl, rfl⟩ _ context).alone
    | put file entry =>
      have alike : Alike machine { machine with world := machine.world.onDisk (·.put file entry) } :=
        ⟨rfl, rfl, rfl, rfl, rfl⟩
      exact (backed.deliver alike .ok context).alone
    | remove file =>
      have alike : Alike machine { machine with world := machine.world.onDisk (·.remove file) } :=
        ⟨rfl, rfl, rfl, rfl, rfl⟩
      exact (backed.deliver alike .ok context).alone
    | sleep milliseconds =>
      have alike (ticks : Nat) : Alike machine { machine with ticks } := ⟨rfl, rfl, rfl, rfl, rfl⟩
      exact (backed.deliver (alike _) .ok context).alone
    | awaitBlocked count => exact (backed.advances (.await _ _ context)).alone
    | dropSlot slot =>
      have alike (slots : List (String × Handle)) : Alike machine { machine with slots } := ⟨rfl, rfl, rfl, rfl, rfl⟩
      exact (backed.deliver (alike _) _ context).alone
    | unlockSlot slot => exact (backed.unlockSlot context slot).alone
    | spawn name step =>
      exact ⟨_, backed.spawn context name allowed⟩
    | join name => exact (backed.advances (.join name context)).alone
    | showSlot slot | slotServes slot | slotRequest slot | lockSlot slot | tryLockSlot slot | reparseSlot slot
    | completeSlot slot | slotDiagnostics slot | debugSlot slot | evictSlot slot => exact (slotted slot).alone
    | _ =>
      first
      | exact (backed.startAtCache context allowed).alone
      | exact (backed.startTelling context allowed).alone

end Backed

end UnitCache.Interleaving
