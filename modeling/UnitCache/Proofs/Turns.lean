import UnitCache.Proofs.MachineThreads
/-!
How the threads of a machine go on. What a thread comes to is again as a run leaves it: with an activity on top, the
thread of the system goes on with that activity's frame; with anything else, only the machine goes on.
-/
namespace UnitCache.Interleaving

open Scenario (Product Callback Level Machine Wish Origin CallStage HookPoint)

section Calls

variable {background : Bool} {store : Store Product Callback} {activity : Activity Product Callback}

theorem harmless_of_none (quiet : callback? activity = none) : Harmless activity := by
  intro callback called
  rw [quiet] at called
  cases called

theorem harmless_of_steps {request : Request} {kind : JobKind} {steps : Option (List Scenario.Step)}
    (own : callback? activity = (Scenario.jobFor request kind steps).callback)
    (allowed : ∀ given ∈ steps, Scenario.areOpen given = true) : Harmless activity := by
  intro callback called
  rw [own] at called
  cases steps with
  | none => cases called
  | some given =>
    cases called
    exact allowed given rfl

end Calls

section Levels

variable {role : Role} {frames : List (Frame Product Callback)} {levels : List Level}

theorem levelsRepresented_deliver (reply : Scenario.Reply) (context : Context role levels frames) :
    LevelsRepresented role (Scenario.deliver reply levels) frames [] := by
  cases context with
  | outermost => exact .done reply
  | callback path left replies number task callback allowed harmless base =>
    exact .script _ _ _ (.callback _ _ _ _ _ _ allowed harmless base)
  | hook point path left replies call stage number task activity allowed asks harmless base =>
    exact .script _ _ _ (.hook _ _ _ _ _ _ _ _ _ allowed asks harmless base)

theorem Context.mayCall (context : Context role levels frames) (guards : List Handle) :
    Thread.mayCall { role, guards, stack := frames : Thread Product Callback } = true := by
  cases context with
  | outermost => rfl
  | callback => simp [Thread.mayCall, Thread.atLarge, outside]
  | hook _ _ _ _ _ _ _ _ _ _ asks => simp [Thread.mayCall, Thread.atLarge, asks.outside]

theorem Context.step {origin : Origin} {step : Scenario.Step} {left : List Scenario.Step}
    {replies : List Scenario.Reply}
    (context : Context role (.script origin (step :: left) replies :: levels) frames) :
    step.isOpen = true ∧ Context role (.script origin left replies :: levels) frames := by
  cases context with
  | callback path _ _ number task callback allowed harmless base =>
    obtain ⟨first, rest⟩ := (Bool.and_eq_true _ _).mp allowed
    exact ⟨first, .callback _ _ _ _ _ _ rest harmless base⟩
  | hook point path _ _ call stage number task activity allowed asks harmless base =>
    obtain ⟨first, rest⟩ := (Bool.and_eq_true _ _).mp allowed
    exact ⟨first, .hook _ _ _ _ _ _ _ _ _ rest asks harmless base⟩

end Levels

/-- A machine that differs only in what its steps can see. -/
structure Alike (machine next : Machine) : Prop where
  store : next.store = machine.store
  locks : next.locks = machine.locks
  hasCache : next.hasCache = machine.hasCache
  hooks : next.engine.hooks = machine.engine.hooks
  threads : next.threads = machine.threads

section Views

variable {machine : Machine}

theorem alike_view (handle : Handle) : Alike machine (machine.view handle).2 := by
  unfold Machine.view
  split <;> exact ⟨rfl, rfl, rfl, rfl, rfl⟩

theorem alike_view? (handle : Option Handle) : Alike machine (machine.view? handle).2 := by
  cases handle with
  | none => exact ⟨rfl, rfl, rfl, rfl, rfl⟩
  | some handle => exact alike_view handle

theorem alike_present (handle : Option Handle) (slot : Option String) :
    Alike machine (machine.present handle slot).2 := by
  have shown : Alike machine (machine.view? handle).2 := alike_view? handle
  unfold Machine.present
  cases handle <;> cases slot <;> exact ⟨shown.store, shown.locks, shown.hasCache, shown.hooks, shown.threads⟩

theorem alike_conclude {wish : Wish} (keeps : wish.held? = none) (outcome : Outcome) :
    Alike machine (machine.conclude wish outcome).2 := by
  cases wish with
  | hold | diagnostics => cases keeps
  | unit slot => cases outcome <;> first | exact alike_present _ slot | exact ⟨rfl, rfl, rfl, rfl, rfl⟩
  | _ =>
    cases outcome with
    | completed result | reparsed result | candidates result => cases result <;> exact ⟨rfl, rfl, rfl, rfl, rfl⟩
    | _ => exact ⟨rfl, rfl, rfl, rfl, rfl⟩

end Views

structure Backed (flags : ParseFlags) (capacity : Nat) (machine : Machine) (others : List Scenario.Thread)
    (own : List (Thread Product Callback)) : Prop where
  stands : Stands flags capacity machine.store machine.locks machine.hasCache others own
  hooks : ∀ hook ∈ machine.engine.hooks, Scenario.areOpen hook.steps = true

/-- What a machine and the levels of one of its threads have come to is as a run leaves it; the machine has these
threads then. -/
def Advances (flags : ParseFlags) (capacity : Nat) (role : Role) (others threads : List Scenario.Thread)
    (result : Machine × List Level) : Prop :=
  result.1.threads = threads ∧ ∃ own, LevelsRepresentedBy role result.2 own ∧ Backed flags capacity result.1 others own

theorem Advances.alone {flags : ParseFlags} {capacity : Nat} {role : Role} {others threads : List Scenario.Thread}
    {result : Machine × List Level} (advances : Advances flags capacity role others threads result) :
    ∃ added, Advances flags capacity role (others ++ added) (threads ++ added) result := by
  refine ⟨[], ?_⟩
  rw [List.append_nil, List.append_nil]
  exact advances

namespace Backed

variable {flags : ParseFlags} {capacity : Nat} {machine next : Machine} {others : List Scenario.Thread}
  {own : List (Thread Product Callback)} {role : Role} {guards : List Handle} {frames : List (Frame Product Callback)}
  {levels : List Level} {result : Machine × List Level}

theorem advances {helpers : List (Thread Product Callback)}
    (backed : Backed flags capacity machine others ({ role, guards, stack := frames } :: helpers))
    (levels_represented : LevelsRepresented role levels frames helpers) :
    Advances flags capacity role others machine.threads (machine, levels) :=
  ⟨rfl, _, ⟨guards, frames, helpers, rfl, levels_represented⟩, backed⟩

theorem alike (backed : Backed flags capacity machine others own) (alike : Alike machine next) :
    Backed flags capacity next others own := by
  obtain ⟨stands, hooks⟩ := backed
  refine ⟨?_, ?_⟩
  · rw [alike.store, alike.locks, alike.hasCache]
    exact stands
  · rw [alike.hooks]
    exact hooks

theorem deliver (backed : Backed flags capacity machine others [{ role, guards, stack := frames }])
    (alike : Alike machine next) (reply : Scenario.Reply) (context : Context role levels frames) :
    Advances flags capacity role others machine.threads (next.answer reply levels) := by
  rw [← alike.threads]
  exact (backed.alike alike).advances (levelsRepresented_deliver reply context)

theorem finish (backed : Backed flags capacity machine others [{ role, guards, stack := frames }])
    (base : Base role levels frames) (outcome : Outcome) :
    Advances flags capacity role others machine.threads (machine.finish outcome levels) := by
  cases base with
  | job path =>
    have warned : Backed flags capacity (machine.warn [.jobPanicked path]) others _ :=
      backed.alike ⟨rfl, rfl, rfl, rfl, rfl⟩
    cases outcome <;> first | exact backed.advances (.done _) | exact warned.advances (.done _)
  | tick => exact backed.advances (.done _)
  | step wish keeps context =>
    have answered := backed.deliver (alike_conclude keeps outcome) (machine.conclude wish outcome).1 context
    unfold Machine.finish
    dsimp only
    split
    next => exact backed.advances (.unwinding context)
    next => exact answered

theorem holding {background : Bool} {wish : Wish} {handle : Handle} {number : Nat} {task : Task Callback}
    (backed : Backed flags capacity machine others [{ role, guards, stack := frames },
      { role := .client, stack := [⟨number, task, .acquire handle .hold⟩] }])
    (keeps : wish.held? = some handle) (context : Context role levels frames)
    (made : machine.follow (.acquire handle .hold) (.expect wish :: levels)
      (Activity.step background machine.store (.acquire handle .hold)) = some result) :
    Advances flags capacity role others machine.threads result := by
  simp only [Activity.step] at made
  split at made
  next => cases made
  next free =>
    -- The client beside the thread takes the unit. For a lock it keeps it; for diagnostics it gives it free at once.
    have turned := backed.stands.recount fun _ accounted => accounted.perm_own (List.Perm.swap _ _ _)
    have chosen : turn? (Role.client != .client) machine.store (.acquire handle .hold) .proceed =
        some (.done (machine.store.lock handle.number) .held [] : Turn Product Callback) := by
      simp [turn?, Activity.step, free]
    have held : Stands flags capacity (machine.store.lock handle.number) machine.locks machine.hasCache others
        [{ role := .client, guards := [handle] }, { role, guards, stack := frames }] :=
      turned.goesOn (harmless_of_none rfl) chosen rfl
    cases wish with
    | hold slot kept =>
      cases keeps
      cases made
      have locked : Backed flags capacity { { machine with store := machine.store.lock handle.number }.warn [] with
          locks := (slot, handle) :: machine.locks } others [{ role, guards, stack := frames }] :=
        ⟨held.recount fun _ accounted => accounted.lock slot, backed.hooks⟩
      exact locked.deliver ⟨rfl, rfl, rfl, rfl, rfl⟩ _ context
    | diagnostics kept =>
      cases keeps
      cases made
      have freed : Backed flags capacity { { machine with store := machine.store.lock handle.number }.warn [] with
          store := (machine.store.lock handle.number).unlock handle.number } others
          [{ role, guards, stack := frames }] := ⟨held.release, backed.hooks⟩
      exact freed.deliver ⟨rfl, rfl, rfl, rfl, rfl⟩ _ context
    | _ => cases keeps

section Activities

variable {number : Nat} {task : Task Callback} {activity : Activity Product Callback} {call : EngineCall}
  {stage : CallStage}

theorem follow {choice : Choice Product Callback} {turn : Turn Product Callback}
    (backed : Backed flags capacity machine others
      [{ role, guards, stack := ⟨number, task, activity⟩ :: frames }])
    (harmless : Harmless activity) (base : Base role levels frames)
    (chosen : turn? (role != .client) machine.store activity choice = some turn)
    (made : machine.follow activity levels turn = some result) :
    Advances flags capacity role others machine.threads result := by
  cases turn with
  | next store behind warnings =>
    cases made
    have goes := backed.stands.goesOn harmless chosen rfl
    have allowed : Harmless behind :=
      fun callback called => harmless callback ((follows_of_turn chosen).callback? called)
    have behind_backed : Backed flags capacity ({ machine with store }.warn warnings) others
        [.goesOn role guards ⟨number, task, activity⟩ (some ⟨number, task, behind⟩) frames] := ⟨goes, backed.hooks⟩
    exact behind_backed.advances (.active number task behind allowed base)
  | done store outcome warnings =>
    have goes := backed.stands.goesOn harmless chosen rfl
    have behind_backed : Backed flags capacity ({ machine with store }.warn warnings) others
        [.goesOn role guards ⟨number, task, activity⟩ none frames] := ⟨goes, backed.hooks⟩
    obtain rfl := Option.some.inj made
    exact behind_backed.finish base outcome
  | engine call =>
    cases made
    have goes := step_of_turn chosen rfl
    exact backed.advances (.call call _ number task activity (asks_of_step goes) harmless base)
  | callback callback =>
    cases made
    obtain rfl := calling_of_step (step_of_turn chosen rfl)
    have allowed : Scenario.areOpen callback.steps = true := harmless callback rfl
    exact backed.advances (.script _ _ _ (.callback _ _ _ number task callback allowed harmless base))
  | waits => cases made

theorem failCall
    (backed : Backed flags capacity machine others
      [{ role, guards, stack := ⟨number, task, activity⟩ :: frames }])
    (asks : Asks activity call) (harmless : Harmless activity) (base : Base role levels frames)
    (made : machine.failCall call activity levels = some result) :
    Advances flags capacity role others machine.threads result := by
  cases call with
  | parse request flags => exact backed.follow harmless base (asks.parsed .panic) made
  | reparse handle flags => exact backed.follow harmless base (asks.reparsed .panic) made
  | complete handle line column flags => exact backed.follow harmless base (asks.completed .panic []) made

theorem arrive {point : HookPoint} {path : Path}
    (backed : Backed flags capacity machine others
      [{ role, guards, stack := ⟨number, task, activity⟩ :: frames }])
    (asks : Asks activity call) (harmless : Harmless activity) (base : Base role levels frames) :
    Advances flags capacity role others machine.threads
      (machine.arrive point path call (.activity activity :: levels)) := by
  unfold Machine.arrive Scenario.ScriptedEngine.takeHook
  dsimp only
  cases found : machine.engine.hooks.find? fun hook => hook.point == point && hook.path == path with
  | none => exact backed.advances (.call call .arrived number task activity asks harmless base)
  | some hook =>
    have allowed : Scenario.areOpen hook.steps = true := backed.hooks hook (List.mem_of_find?_eq_some found)
    have fewer : Backed flags capacity { machine with engine := { machine.engine with
        hooks := machine.engine.hooks.eraseP fun hook => hook.point == point && hook.path == path } } others _ :=
      ⟨backed.stands, fun other inside => backed.hooks other (List.mem_of_mem_eraseP inside)⟩
    exact fewer.advances (.script _ _ _ (.hook _ _ _ _ call .arrived number task activity allowed asks harmless base))

theorem callScripted
    (backed : Backed flags capacity machine others
      [{ role, guards, stack := ⟨number, task, activity⟩ :: frames }])
    (asks : Asks activity call) (harmless : Harmless activity) (base : Base role levels frames)
    (made : machine.callScripted call stage activity levels = some result) :
    Advances flags capacity role others machine.threads result := by
  cases call with
  | parse request given =>
    cases stage with
    | arriving =>
      have noted : Backed flags capacity (machine.onEngine (·.note .parse given)) others _ :=
        backed.alike ⟨rfl, rfl, rfl, rfl, rfl⟩
      obtain rfl := Option.some.inj made
      exact noted.arrive asks harmless base
    | arrived =>
      simp only [Machine.callScripted] at made
      split at made
      next => exact backed.failCall asks harmless base made
      next =>
        have entered : Backed flags capacity (machine.onEngine (·.enter request)) others _ :=
          backed.alike ⟨rfl, rfl, rfl, rfl, rfl⟩
        cases made
        exact entered.advances (.call _ .atGate number task activity asks harmless base)
    | atGate =>
      simp only [Machine.callScripted] at made
      split at made
      next => cases made
      next =>
        have left : Backed flags capacity { machine with engine := (machine.engine.leave request).2 } others _ :=
          backed.alike ⟨rfl, rfl, rfl, rfl, rfl⟩
        exact left.follow harmless base (asks.parsed _) made
  | reparse handle given =>
    cases stage with
    | arriving =>
      have noted : Backed flags capacity (machine.onEngine (·.note .reparse given)) others _ :=
        backed.alike ⟨rfl, rfl, rfl, rfl, rfl⟩
      obtain rfl := Option.some.inj made
      exact noted.arrive asks harmless base
    | arrived | atGate =>
      have built : Backed flags capacity
          { machine with engine := (machine.engine.reparse handle.request.path).2 } others _ :=
        backed.alike ⟨rfl, rfl, rfl, rfl, rfl⟩
      exact built.follow harmless base (asks.reparsed _) made
  | complete handle line column given =>
    have completed : Backed flags capacity
        { machine with engine := (machine.engine.note .complete given).complete.2 } others _ :=
      backed.alike ⟨rfl, rfl, rfl, rfl, rfl⟩
    cases stage <;> exact completed.follow harmless base (asks.completed _ _) made

theorem callEngine
    (backed : Backed flags capacity machine others
      [{ role, guards, stack := ⟨number, task, activity⟩ :: frames }])
    (asks : Asks activity call) (harmless : Harmless activity) (base : Base role levels frames)
    (made : machine.callEngine call stage activity levels = some result) :
    Advances flags capacity role others machine.threads result := by
  have elsewhere (world : World) : Backed flags capacity { machine with world } others
      [{ role, guards, stack := ⟨number, task, activity⟩ :: frames }] :=
    backed.alike ⟨rfl, rfl, rfl, rfl, rfl⟩
  cases call with
  | parse request given =>
    simp only [Machine.callEngine] at made
    split at made
    next => exact backed.callScripted asks harmless base made
    next engine _ =>
      exact (elsewhere (engine.parse machine.world request).2).follow harmless base (asks.parsed _) made
  | reparse handle given =>
    simp only [Machine.callEngine] at made
    split at made
    next artifact _ =>
      exact (elsewhere (artifact.reparse machine.world).2).follow harmless base (asks.reparsed _) made
    next => exact backed.callScripted asks harmless base made
  | complete handle line column given =>
    simp only [Machine.callEngine] at made
    split at made
    next artifact _ =>
      exact (elsewhere (artifact.complete handle.request.path line column machine.world).2.2).follow harmless base
        (asks.completed _ _) made
    next => exact backed.callScripted asks harmless base made

theorem close {origin : Origin} {left : List Scenario.Step} {replies : List Scenario.Reply}
    (backed : Backed flags capacity machine others [{ role, guards, stack := frames }])
    (context : Context role (.script origin left replies :: levels) frames) (panicked : Bool)
    (made : machine.close origin replies panicked levels = some result) :
    Advances flags capacity role others machine.threads result := by
  have noted : Backed flags capacity { machine with nested := machine.nested ++ [origin.nested replies] } others
      [{ role, guards, stack := frames }] := backed.alike ⟨rfl, rfl, rfl, rfl, rfl⟩
  cases context with
  | callback path _ _ number task callback allowed harmless base =>
    exact noted.follow harmless base (rfl : turn? _ _ (.calling callback) (.returned panicked) = some _) made
  | hook point path _ _ call stage number task activity allowed asks harmless base =>
    cases made
    exact noted.advances (.call call stage number task activity asks harmless base)

/-- A panic in a row of steps goes on to what it was taken in. -/
theorem unwind
    (backed : Backed flags capacity machine others [{ role, guards, stack := frames }])
    (context : Context role levels frames) (made : machine.unwind levels = some result) :
    Advances flags capacity role others machine.threads result := by
  cases context with
  | outermost =>
    cases made
    exact backed.advances (.done _)
  | callback path _ _ number task callback allowed harmless base =>
    exact backed.follow harmless base (rfl : turn? _ _ (.calling callback) (.returned true) = some _) made
  | hook point path _ _ call stage number task activity allowed asks harmless base =>
    exact backed.failCall asks harmless base made

end Activities

end Backed

end UnitCache.Interleaving
