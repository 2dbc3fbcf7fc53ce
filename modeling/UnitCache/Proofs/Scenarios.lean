import UnitCache.Proofs.Steps
/-!
What a scenario does to a cache is a run of a system. A machine is kept as a run leaves it by everything that it does:
a thread of it goes on, it takes a job or a tick, it lets time pass, and it begins a step.
-/
namespace UnitCache.Interleaving

open Scenario (Product Callback Level Machine)

variable {flags : ParseFlags} {capacity : Nat} {machine next : Machine} {others : List Scenario.Thread}
  {own : List (Thread Product Callback)} {result : Machine × List Level}

theorem Backed.turn {thread : Scenario.Thread} (backed : Backed flags capacity machine others own)
    (represented : RepresentedBy thread own) (made : machine.turn thread = some result) :
    ∃ added, Advances flags capacity thread.role.inSystem (others ++ added) (machine.threads ++ added) result := by
  obtain ⟨role, background, stack⟩ := thread
  obtain ⟨known, guards, frames, helpers, rfl, levels_represented⟩ := represented
  dsimp only at known levels_represented backed ⊢
  cases levels_represented with
  | done reply => cases made
  | perform step allowed context =>
    cases made
    exact backed.start context _ allowed
  | await condition reply context =>
    simp only [Machine.turn, Option.ite_none_right_eq_some, Option.some.injEq] at made
    rw [← made.2]
    exact (backed.deliver ⟨rfl, rfl, rfl, rfl, rfl⟩ reply context).alone
  | join name context =>
    obtain ⟨reply, _, rfl⟩ := Option.map_eq_some_iff.mp made
    exact (backed.deliver ⟨rfl, rfl, rfl, rfl, rfl⟩ reply context).alone
  | unwinding context => exact (backed.unwind context made).alone
  | script origin left replies context =>
    cases left with
    | nil => exact (backed.close context false made).alone
    | cons step left =>
      obtain ⟨allowed, rest⟩ := context.step
      have goes_on : Advances flags capacity role.inSystem others machine.threads
          (machine, .perform step :: .script origin left replies :: _) := backed.advances (.perform step allowed rest)
      cases step with
      | panic => exact (backed.close context true made).alone
      | _ => cases made; exact goes_on.alone
  | active number task activity harmless base =>
    have chosen : turn? (role.inSystem != .client) machine.store activity .proceed =
        some (activity.step background machine.store) := by rw [known]; rfl
    exact (backed.follow harmless base chosen made).alone
  | call call stage number task activity asks harmless base =>
    exact (backed.callEngine asks harmless base made).alone
  | holding wish handle number task keeps context => exact (backed.holding keeps context made).alone

theorem modify_perm {β : Type} {row : List β} {index : Nat} (inside : index < row.length) (change : β → β)
    (more : List β) :
    ((row ++ more).modify index change).Perm (change row[index] :: (row.eraseIdx index ++ more)) := by
  have longer : index < (row ++ more).length := by
    rw [List.length_append]
    omega
  have set : (row ++ more).modify index change = row.set index (change row[index]) ++ more := by
    rw [List.modify_eq_set_getElem?, List.getElem?_append_left inside, List.getElem?_eq_getElem inside]
    exact List.set_append_left index _ inside
  rw [set]
  exact (List.set_perm_cons_eraseIdx inside _).append_right more

/-- A machine is as a run leaves it, and so are all of its threads. -/
def Whole (flags : ParseFlags) (capacity : Nat) (machine : Machine) : Prop :=
  Backed flags capacity machine machine.threads []

namespace Whole

theorem joins {thread : Scenario.Thread} (stands : Stands flags capacity next.store next.locks next.hasCache others own)
    (hooks : ∀ hook ∈ next.engine.hooks, Scenario.areOpen hook.steps = true) (represented : RepresentedBy thread own)
    (threads : next.threads.Perm (thread :: others)) : Whole flags capacity next :=
  ⟨stands.recount fun _ accounted => (accounted.add_last represented).perm threads.symm, hooks⟩

theorem moveThread {index : Nat} (whole : Whole flags capacity machine) (made : machine.moveThread index = some next) :
    Whole flags capacity next := by
  simp only [Machine.moveThread, Option.bind_eq_bind, Option.bind_eq_some_iff] at made
  obtain ⟨thread, found, ⟨behind, stack⟩, turned, same⟩ := made
  obtain ⟨inside, rfl⟩ := List.getElem?_eq_some_iff.mp found
  cases same
  have cut : machine.threads.Perm (machine.threads[index] :: machine.threads.eraseIdx index) :=
    (List.getElem_cons_eraseIdx_perm inside).symm
  obtain ⟨own, represented, stands⟩ := (whole.stands.recount fun _ accounted => accounted.perm cut).remove
  have focused : Backed flags capacity machine (machine.threads.eraseIdx index) own := ⟨stands, whole.hooks⟩
  obtain ⟨added, threads, later, levels_represented, backed⟩ := focused.turn represented turned
  have represented : RepresentedBy { machine.threads[index] with stack } later := ⟨represented.1, levels_represented⟩
  have rejoined : (behind.threads.modify index fun thread => { thread with stack }).Perm
      ({ machine.threads[index] with stack } :: (machine.threads.eraseIdx index ++ added)) := by
    have same : behind.threads = machine.threads ++ added := threads
    rw [same]
    exact modify_perm inside (fun thread => { thread with stack }) added
  exact joins backed.stands backed.hooks represented rejoined

theorem dismiss (whole : Whole flags capacity machine) : Whole flags capacity machine.dismiss :=
  ⟨whole.stands.recount fun _ accounted => accounted.filter _, whole.hooks⟩

theorem employ (whole : Whole flags capacity machine) (made : machine.employ = some next) :
    Whole flags capacity next := by
  simp only [Machine.employ] at made
  split at made
  next job store taken =>
    have dequeued : machine.store.dequeue = some (job, store) := by
      split at taken
      next => exact taken
      next => cases taken
    cases made
    obtain ⟨number, stands⟩ := whole.stands.take dequeued
    have waits : job ∈ machine.store.queue.jobs := by
      rw [(dequeue_cases dequeued).1]
      exact List.mem_cons_self
    have harmless : Harmless (Activity.ofJob job : Activity Product Callback) := by
      intro callback called
      refine whole.stands.harmless job waits callback ?_
      cases kind : job.kind <;> simp only [Activity.ofJob, kind] at called <;> exact called
    have represented : RepresentedBy
        { role := .worker, background := true, stack := [.activity (.ofJob job), .guard job.request.path] }
        [{ role := .worker, stack := [⟨number, .job job, .ofJob job⟩] }] :=
      ⟨rfl, [], _, [], rfl, .active number (.job job) (.ofJob job) harmless (.job job.request.path)⟩
    exact joins stands whole.hooks represented (List.perm_append_singleton _ _)
  next =>
    split at made
    next => cases made
    next =>
      cases made
      obtain ⟨number, stands⟩ := whole.stands.tick
      have represented : RepresentedBy { role := .ticker, background := true, stack := [.activity .collect] }
          [{ role := .ticker, stack := [⟨number, .tick, .collect⟩] }] :=
        ⟨rfl, [], _, [], rfl, .active number .tick .collect (harmless_of_none rfl) .tick⟩
      exact joins stands whole.hooks represented (List.perm_append_singleton _ _)

theorem move (whole : Whole flags capacity machine) (made : machine.move = some next) : Whole flags capacity next := by
  simp only [Machine.move] at made
  split at made
  next behind found =>
    cases made
    obtain ⟨index, _, moved⟩ := List.exists_of_findSome?_eq_some found
    exact (whole.moveThread moved).dismiss
  next => exact whole.employ made

theorem passTime (whole : Whole flags capacity machine) (made : machine.passTime = some next) :
    Whole flags capacity next := by
  simp only [Machine.passTime] at made
  split at made
  next =>
    simp only [Option.ite_none_right_eq_some, Option.some.injEq] at made
    rw [← made.2]
    exact ⟨whole.stands, whole.hooks⟩
  next => cases made

theorem settle (whole : Whole flags capacity machine) (fuel : Nat) :
    Whole flags capacity (Machine.settle fuel machine) := by
  induction fuel generalizing machine with
  | zero => exact whole
  | succ fuel ih =>
    simp only [Machine.settle]
    split
    next behind moved => exact ih (whole.move moved)
    next =>
      split
      next behind passed => exact ih (whole.passTime passed)
      next => exact whole

theorem takeStep (whole : Whole flags capacity machine) (fuel : Nat) {step : Scenario.Step}
    (allowed : step.isOpen = true) :
    Whole flags capacity (machine.takeStep false fuel step).2 := by
  have represented : RepresentedBy (begun .main step) [{ role := .client }] := representedBy_begun rfl allowed
  have joined : Whole flags capacity { machine with threads := begun .main step :: machine.threads } :=
    joins (whole.stands.widen .client) whole.hooks represented .rfl
  have settled := joined.settle fuel
  exact ⟨settled.stands.recount fun _ accounted => accounted.filter _, settled.hooks⟩

theorem takeSteps (whole : Whole flags capacity machine) (fuel : Nat) {steps : List Scenario.Step}
    (allowed : Scenario.areOpen steps = true) : Whole flags capacity (machine.takeSteps false fuel steps).2 := by
  induction steps generalizing machine with
  | nil => exact whole
  | cons step rest ih =>
    obtain ⟨first, later⟩ := (Bool.and_eq_true _ _).mp allowed
    exact ih (whole.takeStep fuel first) later

end Whole

theorem whole_newCache {choice : Scenario.EngineChoice} {configuration : Configuration} {world : World}
    (new : Scenario.newCache choice configuration world = .ok machine) :
    Whole configuration.parser.flags configuration.cache.queueLength.toNat machine := by
  cases checked : configuration.check with
  | error error =>
    rw [Scenario.newCache, checked] at new
    cases new
  | ok =>
    rw [Scenario.newCache, checked] at new
    cases new
    have nobody : Accounted [] [] [] [] := ⟨[], [], fun _ inside => absurd inside List.not_mem_nil, .rfl, .rfl⟩
    have stands : Stands configuration.parser.flags configuration.cache.queueLength.toNat _ [] true [] [] :=
      ⟨fun _ => rfl, fun _ waits => absurd waits List.not_mem_nil, [], [], _, .start, rfl, fun _ => rfl, nobody⟩
    exact ⟨stands, fun _ inside => absurd inside List.not_mem_nil⟩

/-- Whatever users do to a cache in a scenario, threads and workers could have come to the same store in a run. -/
theorem scenario_is_run {choice : Scenario.EngineChoice} {configuration : Configuration} {world : World}
    (new : Scenario.newCache choice configuration world = .ok machine) {steps : List Scenario.Step}
    (allowed : Scenario.areOpen steps = true) :
    ∃ (roles : List Role) (history : List (Moment Product Callback)) (system : System Product Callback),
      Run configuration.parser.flags configuration.cache.queueLength.toNat roles history system ∧
      system.store = (Scenario.runOnCache machine steps).2.store ∧
      ((Scenario.runOnCache machine steps).2.hasCache = true → system.stopping = false) := by
  obtain ⟨_, _, roles, history, system, run, held, alive, _⟩ :=
    ((whole_newCache new).takeSteps (Scenario.fuelFor steps) allowed).stands
  exact ⟨roles, history, system, run, held, alive⟩

/-- In the store that a scenario leaves, units and requests stand under paths of their own. -/
theorem keyed_scenario {choice : Scenario.EngineChoice} {configuration : Configuration} {world : World}
    (new : Scenario.newCache choice configuration world = .ok machine) {steps : List Scenario.Step}
    (allowed : Scenario.areOpen steps = true) : Keyed (Scenario.runOnCache machine steps).2.store := by
  obtain ⟨_, _, system, run, held, _⟩ := scenario_is_run new allowed
  rw [← held]
  exact run.sound.1.keyed

end UnitCache.Interleaving
