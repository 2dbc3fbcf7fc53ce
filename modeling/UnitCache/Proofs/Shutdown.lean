import UnitCache.Proofs.Deadlock
import UnitCache.Proofs.Pool
/-!
What becomes of the threads of a cache when they are dropped. A worker that has a job in hand finishes it; one that has
not looked at the signal yet does so before it does anything for its job, so it stops without the job, whatever it has
selected. The drop returns when all threads have stopped but the one that it was made on.
-/
namespace UnitCache

open Interleaving

namespace Pool

variable {α κ : Type}

def Within (thread : Thread α κ) (number : Nat) (job : Job κ) : Prop :=
  ∃ frames activity, thread.stack = frames ++ [⟨number, .job job, activity⟩]

inductive Employed (thread : Thread α κ) : Stage → Prop where
  | selecting (idle : thread.stack = []) : Employed thread .selecting
  | received (number : Nat) (job : Job κ) (stack : thread.stack = [⟨number, .job job, .ofJob job⟩]) :
      Employed thread .received
  | working (number : Nat) (job : Job κ) (within : Within thread number job) : Employed thread .working
  | stopped : Employed thread .stopped

def InJob (pool : Pool α κ) (index number : Nat) (job : Job κ) : Prop :=
  pool.stages[index]? = some .working ∧ ∃ thread, pool.system.threads[index]? = some thread ∧ Within thread number job

inductive Goes (pool : Pool α κ) (index : Nat) (thread : Thread α κ) :
    Move α κ → Stage → Thread α κ → Stage → Prop where
  | receives (job : Job κ) (idle : thread.stack = []) :
      Goes pool index thread (.receive index) .selecting (thread.begin pool.system.clock (.job job) (.ofJob job))
        .received
  | commits (silent : pool.signalled = false) : Goes pool index thread (.look index) .received thread .working
  | discards (given : pool.signalled = true) : Goes pool index thread (.look index) .received thread .stopped
  | leaves (given : pool.signalled = true) : Goes pool index thread (.leave index) .selecting thread .stopped
  | works (choice : Choice α κ) (store : Store α κ) (later : Thread α κ)
      (acts : thread.Acts pool.system.clock pool.system.store choice store later) :
      Goes pool index thread (.act index choice) .working later (stageOf later)

section Threads

variable {pool : Pool α κ} {thread later : Thread α κ} {clock number index : Nat} {store next : Store α κ}
  {choice : Choice α κ} {job : Job κ} {move : Move α κ} {stage behind : Stage}

theorem Within.acts (within : Within thread number job) (acts : thread.Acts clock store choice next later) :
    later.stack = [] ∨ Within later number job := by
  obtain ⟨frames, activity, whole⟩ := within
  cases acts with
  | calls operation => exact .inr ⟨_ :: frames, activity, by rw [Thread.begin, whole]; rfl⟩
  | releases => exact .inr ⟨frames, activity, whole⟩
  | takes _ _ _ idle | ticks _ idle => simp [idle] at whole
  | goesOn _ frame rest turn _ left stack _ made =>
    rw [stack] at whole
    cases frames with
    | cons first others =>
      obtain ⟨rfl, rfl⟩ := List.cons.inj whole
      exact .inr ⟨left.toList ++ others, activity, by simp⟩
    | nil =>
      obtain ⟨rfl, rfl⟩ := List.cons.inj whole
      cases left with
      | none => exact .inl rfl
      | some last =>
        obtain ⟨same_number, same_task⟩ := after?_same made
        refine .inr ⟨[], last.activity, ?_⟩
        cases last
        cases same_number
        cases same_task
        rfl

theorem stageOf_worker (role : thread.role = .worker) :
    stageOf thread = if thread.stack.isEmpty then .selecting else .working := by
  simp [stageOf, Thread.background, role]

theorem stageOf_within (within : Within thread number job) : stageOf thread = .working := by
  obtain ⟨frames, activity, whole⟩ := within
  simp [stageOf, whole]

theorem Employed.goes (employed : Employed thread stage) (goes : Goes pool index thread move stage later behind)
    (role : thread.role = .worker) : Employed later behind := by
  cases goes with
  | receives job idle => exact .received pool.system.clock job (by rw [Thread.begin, idle])
  | commits =>
    cases employed with
    | received number job stack => exact .working number job ⟨[], _, stack⟩
  | discards | leaves => exact .stopped
  | works _ _ _ acts =>
    cases employed with
    | working number job within =>
      rcases within.acts acts with idle | within
      · rw [stageOf_worker (acts.role.trans role), idle]
        exact .selecting idle
      · rw [stageOf_within within]
        exact .working number job within

end Threads

section Steps

variable {pool next : Pool α κ} {move : Move α κ} {index : Nat} {thread : Thread α κ}

theorem thread_of_move {system after : System α κ} {choice : Choice α κ}
    (made : system.move? (.thread index choice) = some after) :
    ∃ thread later, system.threads[index]? = some thread ∧
      thread.act? system.clock system.store choice = some (after.store, later) ∧
      after.threads = system.threads.set index later := by
  simp only [System.move?, Option.bind_eq_bind, Option.bind_eq_some_iff] at made
  obtain ⟨thread, found, ⟨store, later⟩, acted, same⟩ := made
  cases same
  exact ⟨thread, later, found, acted, rfl⟩

theorem Step.elsewhere (step : Step pool move next) (other : move.thread? ≠ some index) :
    next.system.threads[index]? = pool.system.threads[index]? ∧ next.stages[index]? = pool.stages[index]? := by
  have apart {each : Nat} (thread? : move.thread? = some each) : each ≠ index := by
    rintro rfl
    exact other thread?
  cases step with
  | receive each _ _ made | tick each _ _ made | act each _ _ _ _ _ made =>
    obtain ⟨_, _, _, _, threads⟩ := thread_of_move made
    rw [threads]
    exact ⟨List.getElem?_set_ne (apart rfl), List.getElem?_set_ne (apart rfl)⟩
  | look | leave => exact ⟨rfl, List.getElem?_set_ne (apart rfl)⟩
  | drop _ _ _ _ _ _ _ made =>
    cases made
    exact ⟨rfl, rfl⟩
  | join | giveBack => exact ⟨rfl, rfl⟩
  | close _ made =>
    simp only [System.move?, Option.ite_none_right_eq_some, Option.some.injEq] at made
    obtain ⟨_, rfl⟩ := made
    exact ⟨rfl, rfl⟩

theorem Step.stage (step : Step pool move next) (own : move.thread? = some index) :
    ∃ stage, pool.stages[index]? = some stage ∧ stage ≠ .stopped := by
  cases step with
  | receive _ _ at_stage | look _ at_stage | tick _ _ at_stage | leave _ at_stage | act _ _ _ _ at_stage =>
    cases own
    exact ⟨_, at_stage, by simp⟩
  | _ => cases own

theorem Step.signalled (step : Step pool move next) (given : pool.signalled = true) : next.signalled = true := by
  cases step <;> first | exact given | rfl

theorem goes_of_step (step : Step pool move next) (own : move.thread? = some index)
    (found : pool.system.threads[index]? = some thread) (role : thread.role = .worker) :
    ∃ stage later behind, pool.stages[index]? = some stage ∧ next.system.threads[index]? = some later ∧
      next.stages[index]? = some behind ∧ Goes pool index thread move stage later behind := by
  have put {stage : Stage} (stages : pool.stages[index]? = some stage) (behind : Stage) :
      (pool.stages.set index behind)[index]? = some behind :=
    List.getElem?_set_self (List.getElem?_eq_some_iff.mp stages).1
  have placed (later : Thread α κ) : (pool.system.threads.set index later)[index]? = some later :=
    List.getElem?_set_self (List.getElem?_eq_some_iff.mp found).1
  cases step with
  | receive _ _ selects made =>
    cases own
    obtain ⟨_, later, here, acted, threads⟩ := thread_of_move made
    cases found.symm.trans here
    cases acts_of_act? acted with
    | takes job _ _ idle => exact ⟨_, _, _, selects, by rw [threads]; exact placed _, put selects _, .receives job idle⟩
    | goesOn _ _ _ _ _ _ _ chosen => cases chosen
  | look _ received =>
    cases own
    refine ⟨_, thread, _, received, found, put received _, ?_⟩
    split
    next given => exact .discards given
    next silent => exact .commits (by simpa using silent)
  | tick _ _ _ made =>
    cases own
    obtain ⟨_, _, here, acted, _⟩ := thread_of_move made
    cases found.symm.trans here
    simp [Thread.act?, role] at acted
  | leave _ selects given =>
    cases own
    exact ⟨_, thread, _, selects, found, put selects _, .leaves given⟩
  | act _ choice _ _ works _ made there =>
    cases own
    obtain ⟨_, later, here, acted, threads⟩ := thread_of_move made
    cases found.symm.trans here
    rw [threads, placed, Option.some.injEq] at there
    subst there
    exact ⟨_, later, _, works, by rw [threads]; exact placed _, put works _,
      .works choice _ later (acts_of_act? acted)⟩
  | _ => cases own

end Steps

section Runs

variable {flags : ParseFlags} {capacity : Nat} {roles : List Role} {history earlier later : List (Moment α κ)}
  {pool : Pool α κ} {index : Nat}

theorem Run.thread (run : Run flags capacity roles history pool) {role : Role} (known : roles[index]? = some role) :
    ∃ thread, pool.system.threads[index]? = some thread ∧ thread.role = role := by
  rw [← run.traced.same_roles, List.getElem?_map, Option.map_eq_some_iff] at known
  exact known

theorem Run.employed (run : Run flags capacity roles history pool) (worker : roles[index]? = some .worker) :
    ∃ thread stage, pool.system.threads[index]? = some thread ∧ pool.stages[index]? = some stage ∧
      Employed thread stage := by
  induction run with
  | start =>
    exact ⟨{ role := .worker }, .selecting, by simp [Pool.start, System.start, worker], by simp [Pool.start, worker],
      .selecting rfl⟩
  | @move history pool next move run made ih =>
    have step := step_of_move made
    obtain ⟨thread, stage, found, stages, employed⟩ := ih
    by_cases own : move.thread? = some index
    · obtain ⟨_, here, role⟩ := run.thread worker
      cases found.symm.trans here
      obtain ⟨_, later, behind, before, there, stands, goes⟩ := goes_of_step step own found role
      cases stages.symm.trans before
      exact ⟨later, behind, there, stands, employed.goes goes role⟩
    · obtain ⟨same_thread, same_stage⟩ := step.elsewhere own
      exact ⟨thread, stage, same_thread.trans found, same_stage.trans stages, employed⟩

theorem Run.in_job (run : Run flags capacity roles history pool) (worker : roles[index]? = some .worker)
    (works : pool.stages[index]? = some .working) : ∃ number job, pool.InJob index number job := by
  obtain ⟨thread, stage, found, stages, employed⟩ := run.employed worker
  cases works.symm.trans stages
  cases employed with
  | working number job within => exact ⟨number, job, works, thread, found, within⟩

theorem Run.signalled_since {before : Pool α κ} {dropper : Nat}
    (run : Run flags capacity roles (earlier ++ ⟨before, .drop dropper⟩ :: later) pool) : pool.signalled = true := by
  induction later using List.reverseRecOn generalizing pool with
  | nil => cases step_of_move run.last.2; rfl
  | append_singleton later moment ih =>
    rw [← List.cons_append, ← List.append_assoc] at run
    exact (step_of_move run.last.2).signalled (ih run.last.1)

theorem InJob.step {next : Pool α κ} {move : Move α κ} (run : Run flags capacity roles history pool)
    (step : Step pool move next) (given : pool.signalled = true) (worker : roles[index]? = some .worker)
    (works : next.stages[index]? = some .working) :
    pool.stages[index]? = some .working ∧ ∀ number job, pool.InJob index number job → next.InJob index number job := by
  by_cases own : move.thread? = some index
  · obtain ⟨thread, found, role⟩ := run.thread worker
    obtain ⟨stage, later, behind, before, there, stands, goes⟩ := goes_of_step step own found role
    have same := works.symm.trans stands
    cases goes with
    | commits silent =>
      rw [given] at silent
      cases silent
    | works _ _ _ acts =>
      refine ⟨before, fun number job ⟨_, _, here, within⟩ => ?_⟩
      cases found.symm.trans here
      rcases within.acts acts with idle | within
      · simp [stageOf_worker (acts.role.trans role), idle] at same
      · exact ⟨works, later, there, within⟩
    | _ => cases same
  · obtain ⟨same_thread, same_stage⟩ := step.elsewhere own
    refine ⟨same_stage ▸ works, fun number job ⟨_, thread, found, within⟩ => ?_⟩
    exact ⟨works, thread, same_thread.trans found, within⟩

/-- A worker that is at work after a drop has begun is in the job that it was in then. -/
theorem Run.same_job {before : Pool α κ} {dropper : Nat}
    (run : Run flags capacity roles (earlier ++ ⟨before, .drop dropper⟩ :: later) pool)
    (worker : roles[index]? = some .worker) (works : pool.stages[index]? = some .working) :
    ∃ number job, before.InJob index number job ∧ pool.InJob index number job := by
  induction later using List.reverseRecOn generalizing pool with
  | nil =>
    obtain ⟨reached, made⟩ := run.last
    obtain ⟨same_thread, same_stage⟩ := (step_of_move made).elsewhere (by simp [Move.thread?])
    obtain ⟨number, job, was⟩ := reached.in_job worker (same_stage ▸ works)
    obtain ⟨_, thread, found, within⟩ := was
    exact ⟨number, job, ⟨same_stage ▸ works, thread, found, within⟩, works, thread, same_thread.trans found, within⟩
  | append_singleton later moment ih =>
    rw [← List.cons_append, ← List.append_assoc] at run
    obtain ⟨reached, made⟩ := run.last
    obtain ⟨worked, stays⟩ := InJob.step reached (step_of_move made) reached.signalled_since worker works
    obtain ⟨number, job, was, now⟩ := ih reached worked
    exact ⟨number, job, was, stays number job now⟩

/-- A thread has something on its stack for which it does nothing. -/
structure Parked (pool : Pool α κ) (index number : Nat) : Prop where
  stage : pool.stages[index]? = some .received ∨ pool.stages[index]? = some .stopped
  stack : ∃ thread, pool.system.threads[index]? = some thread ∧ ∃ frame ∈ thread.stack, frame.number = number

theorem Parked.step {next : Pool α κ} {move : Move α κ} {number : Nat} (parked : pool.Parked index number)
    (run : Run flags capacity roles history pool) (step : Step pool move next) (given : pool.signalled = true)
    (worker : roles[index]? = some .worker) : next.Parked index number := by
  obtain ⟨stage, thread, found, holds⟩ := parked
  by_cases own : move.thread? = some index
  · obtain ⟨_, here, role⟩ := run.thread worker
    cases found.symm.trans here
    obtain ⟨_, later, behind, before, there, stands, goes⟩ := goes_of_step step own found role
    cases goes with
    | discards => exact ⟨.inr stands, thread, there, holds⟩
    | commits silent =>
      rw [given] at silent
      cases silent
    | receives | leaves | works => simp [before] at stage
  · obtain ⟨same_thread, same_stage⟩ := step.elsewhere own
    rw [← same_stage] at stage
    exact ⟨stage, thread, same_thread.trans found, holds⟩

theorem same_thread {system : System α κ} {left right : Nat} {first second : Thread α κ} {frame other : Frame α κ}
    (distinct : system.numbers.Nodup) (found : system.threads[left]? = some first) (inside : frame ∈ first.stack)
    (there : system.threads[right]? = some second) (among : other ∈ second.stack) (same : frame.number = other.number) :
    left = right := by
  rw [System.numbers, System.frames, List.map_flatMap, List.nodup_flatMap, List.pairwise_iff_getElem] at distinct
  obtain ⟨_, rfl⟩ := List.getElem?_eq_some_iff.mp found
  obtain ⟨_, rfl⟩ := List.getElem?_eq_some_iff.mp there
  have mine := List.mem_map_of_mem (f := Frame.number) inside
  have its := List.mem_map_of_mem (f := Frame.number) among
  by_contra apart
  rcases Nat.lt_or_gt_of_ne apart with before | behind
  · exact distinct.2 left right _ _ before mine (same ▸ its)
  · exact distinct.2 right left _ _ behind its (same ▸ mine)

theorem actor_of_act {move : Move α κ} {inner : Interleaving.Move α κ} {act : Act α κ}
    (stands : move.inSystem? = some inner) (told : Interleaving.Moment.act? ⟨pool.system, inner⟩ = some act) :
    ∃ each choice thread, move = .act each choice ∧ pool.system.threads[each]? = some thread ∧
      act.frame ∈ thread.stack := by
  cases move with
  | act each choice =>
    cases stands
    simp only [Interleaving.Moment.act?, Option.bind_eq_bind, Option.bind_eq_some_iff, Option.ite_none_right_eq_some,
      Option.some.injEq] at told
    obtain ⟨thread, found, frame, top, _, rfl⟩ := told
    exact ⟨each, choice, thread, rfl, found, List.mem_of_mem_head? top⟩
  | receive | tick =>
    cases stands
    rw [act?_eq_none fun _ _ => rfl] at told
    cases told
  | drop | close =>
    cases stands
    cases told
  | _ => cases stands

theorem Parked.acts {next : Pool α κ} {move : Move α κ} {number : Nat} (parked : pool.Parked index number)
    (run : Run flags capacity roles history pool) (step : Step pool move next) :
    acts number (trace (history ++ [⟨pool, move⟩])) = acts number (trace history) := by
  rw [trace_append]
  cases stands : move.inSystem? with
  | none => simp
  | some inner =>
    cases told : Interleaving.Moment.act? ⟨pool.system, inner⟩ with
    | none => exact acts_append_idle number _ told
    | some act =>
      refine acts_append_apart _ told fun same => ?_
      obtain ⟨each, choice, thread, rfl, found, inside⟩ := actor_of_act stands told
      obtain ⟨stage, _, there, frame, among, number⟩ := parked
      obtain rfl := same_thread run.traced.numbered.1 found inside there among (same.trans number.symm)
      cases step with
      | act _ _ _ _ works => simp [works] at stage

theorem parked_of_receive {next : Pool α κ} (run : Run flags capacity roles history pool)
    (step : Step pool (.receive index) next) :
    roles[index]? = some .worker ∧ next.Parked index pool.system.clock ∧
      ∃ job, (⟨pool.system, .thread index .take⟩ : Interleaving.Moment α κ).begins? =
        some (pool.system.clock, .job job) := by
  cases step with
  | receive _ _ selects made =>
    obtain ⟨thread, later, found, acted, threads⟩ := thread_of_move made
    simp only [Thread.act?, Option.ite_none_right_eq_some, Bool.and_eq_true, beq_iff_eq, Option.map_eq_some_iff,
      Prod.mk.injEq] at acted
    obtain ⟨⟨role, _⟩, ⟨job, store⟩, taken, rfl, rfl⟩ := acted
    have inside : index < pool.stages.length := (List.getElem?_eq_some_iff.mp selects).1
    have placed : index < pool.system.threads.length := (List.getElem?_eq_some_iff.mp found).1
    refine ⟨?_, ⟨.inl (List.getElem?_set_self inside), ?_⟩, job, by simp [Interleaving.Moment.begins?, taken]⟩
    · rw [← run.traced.same_roles, List.getElem?_map, found, Option.map_some, role]
    · exact ⟨_, by rw [threads]; exact List.getElem?_set_self placed, _, List.mem_cons_self, rfl⟩

theorem Run.parked {before : Pool α κ}
    (run : Run flags capacity roles (earlier ++ ⟨before, .receive index⟩ :: later) pool)
    (given : before.signalled = true) :
    pool.signalled = true ∧ roles[index]? = some .worker ∧ pool.Parked index before.system.clock ∧
      acts before.system.clock (trace (earlier ++ ⟨before, .receive index⟩ :: later)) = [] := by
  induction later using List.reverseRecOn generalizing pool with
  | nil =>
    obtain ⟨reached, made⟩ := run.last
    have step := step_of_move made
    obtain ⟨worker, parked, _⟩ := parked_of_receive reached step
    refine ⟨step.signalled given, worker, parked, ?_⟩
    rw [trace_append]
    exact (acts_append_idle _ _ (act?_eq_none fun _ _ => rfl)).trans reached.traced.unacted
  | append_singleton later moment ih =>
    rw [← List.cons_append, ← List.append_assoc] at run ⊢
    obtain ⟨reached, made⟩ := run.last
    obtain ⟨known, worker, parked, nothing⟩ := ih reached
    have step := step_of_move made
    exact ⟨step.signalled known, worker, parked.step reached step known worker,
      (parked.acts reached step).trans nothing⟩

/-- A job that is received when the signal is given is begun, and then nothing is ever done for it. -/
theorem Run.discards {before : Pool α κ}
    (run : Run flags capacity roles (earlier ++ ⟨before, .receive index⟩ :: later) pool)
    (given : before.signalled = true) :
    (∃ job, (before.system.clock, .job job) ∈ started (trace (earlier ++ ⟨before, .receive index⟩ :: later))) ∧
      acts before.system.clock (trace (earlier ++ ⟨before, .receive index⟩ :: later)) = [] := by
  refine ⟨?_, (run.parked given).2.2.2⟩
  obtain ⟨reached, _, made⟩ := run.made_at
  obtain ⟨_, _, job, begins⟩ := parked_of_receive reached (step_of_move made)
  refine ⟨job, List.mem_filterMap.mpr ⟨⟨before.system, .thread index .take⟩, ?_, begins⟩⟩
  exact List.mem_filterMap.mpr ⟨⟨before, .receive index⟩, by simp, rfl⟩

/-- How far a drop is: each thread of the cache is still to be joined, or it is the one that the drop was made on, or it
has stopped. -/
structure Joining (roles : List Role) (pool : Pool α κ) (drop : Drop) : Prop where
  own : ∀ index ∈ drop.left, ∃ role, roles[index]? = some role ∧ role ≠ .client
  joined : ∀ index role, roles[index]? = some role → role ≠ .client →
    index ∈ drop.left ∨ index = drop.dropper ∨ pool.stages[index]? = some .stopped
  returned : drop.returned = true → drop.left = []

theorem Step.stays_stopped {next : Pool α κ} {move : Move α κ} (step : Step pool move next)
    (stopped : pool.stages[index]? = some .stopped) : next.stages[index]? = some .stopped := by
  by_cases own : move.thread? = some index
  · obtain ⟨stage, stands, other⟩ := step.stage own
    exact absurd (Option.some.inj (stands.symm.trans stopped)) other
  · rw [(step.elsewhere own).2]
    exact stopped

theorem Run.mem_handles (run : Run flags capacity roles history pool) :
    index ∈ pool.handles ↔ ∃ role, roles[index]? = some role ∧ role ≠ .client := by
  rw [← run.traced.same_roles, handles, List.mem_filter, List.mem_range, Option.any_eq_true]
  constructor
  · rintro ⟨_, thread, found, own⟩
    exact ⟨thread.role, by simp [found], by simpa [Thread.background] using own⟩
  · rintro ⟨role, known, own⟩
    obtain ⟨thread, found, rfl⟩ := Option.map_eq_some_iff.mp (List.getElem?_map ▸ known)
    exact ⟨(List.getElem?_eq_some_iff.mp found).1, thread, found, by simpa [Thread.background] using own⟩

theorem Joining.stays {next : Pool α κ} {move : Move α κ} {drop : Drop} (joining : Joining roles pool drop)
    (step : Step pool move next) : Joining roles next drop where
  own := joining.own
  joined index role known other := (joining.joined index role known other).imp_right (Or.imp_right step.stays_stopped)
  returned := joining.returned

theorem Run.joining (run : Run flags capacity roles history pool) {drop : Drop} (drops : pool.drop = some drop) :
    Joining roles pool drop := by
  induction run generalizing drop with
  | start => cases drops
  | @move history pool next move run made ih =>
    cases step_of_move made with
    | receive | look | tick | leave | act | close => exact (ih drops).stays (step_of_move made)
    | drop =>
      cases drops
      exact ⟨fun index inside => run.mem_handles.mp inside,
        fun index role known other => .inl (run.mem_handles.mpr ⟨role, known, other⟩), by rintro ⟨⟩⟩
    | join dropper follower left returned was passes =>
      cases drops
      obtain ⟨own, joined, ended⟩ := ih was
      refine ⟨fun index inside => own index (List.mem_cons_of_mem _ inside), fun index role known other => ?_,
        fun closed => absurd (ended closed) (List.cons_ne_nil _ _)⟩
      rcases joined index role known other with inside | gone
      · rcases List.mem_cons.mp inside with rfl | inside
        · exact .inr passes
        · exact .inl inside
      · exact .inr gone
    | giveBack dropper was =>
      cases drops
      obtain ⟨own, joined, _⟩ := ih was
      exact ⟨own, joined, fun _ => rfl⟩

/-- A drop that has returned has joined all threads of the cache but the one that it was made on. -/
theorem Run.waits (run : Run flags capacity roles history pool) {drop : Drop} (drops : pool.drop = some drop)
    (returned : drop.returned = true) {role : Role} (known : roles[index]? = some role) (own : role ≠ .client)
    (other : index ≠ drop.dropper) : pool.stages[index]? = some .stopped := by
  have joining := run.joining drops
  rcases joining.joined index role known own with left | dropper | stopped
  · rw [joining.returned returned] at left
    cases left
  · exact absurd dropper other
  · exact stopped

/-- A drop whose threads have all stopped joins them one by one, and returns. -/
theorem returns_of_stopped {drop : Drop} (drops : pool.drop = some drop) (open_still : drop.returned = false)
    (stopped : ∀ index ∈ drop.left, index = drop.dropper ∨ pool.stages[index]? = some .stopped) :
    ∃ made last, pool.follow (List.replicate drop.left.length .join ++ [.giveBack]) = some (made, last) ∧
      last.drop = some { drop with left := [], returned := true } := by
  obtain ⟨dropper, left, returned⟩ := drop
  dsimp only at open_still
  subst open_still
  induction left generalizing pool with
  | nil =>
    have made : pool.move? .giveBack = some { pool with drop := some ⟨dropper, [], true⟩ } := by
      simp only [move?, drops]
    exact ⟨_, _, follow_cons made rfl, rfl⟩
  | cons next left ih =>
    have made : pool.move? .join = some { pool with drop := some ⟨dropper, left, false⟩ } := by
      simp only [move?, drops]
      exact if_pos (stopped next List.mem_cons_self)
    have drops_still :
        ({ pool with drop := some ⟨dropper, left, false⟩ } : Pool α κ).drop = some ⟨dropper, left, false⟩ := rfl
    obtain ⟨later, last, followed, ended⟩ := ih drops_still fun index inside =>
      stopped index (List.mem_cons_of_mem _ inside)
    exact ⟨_, last, follow_cons made followed, ended⟩

/-- A drop does not wait for the thread that it is made on. -/
theorem Run.returns (run : Run flags capacity roles history pool) {drop : Drop} (drops : pool.drop = some drop)
    (open_still : drop.returned = false)
    (stopped : ∀ index role, roles[index]? = some role → role ≠ .client → index ≠ drop.dropper →
      pool.stages[index]? = some .stopped) :
    ∃ made last, pool.follow (List.replicate drop.left.length .join ++ [.giveBack]) = some (made, last) ∧
      last.drop = some { drop with left := [], returned := true } := by
  refine returns_of_stopped drops open_still fun index inside => ?_
  obtain ⟨role, known, own⟩ := (run.joining drops).own index inside
  by_cases dropper : index = drop.dropper
  · exact .inl dropper
  · exact .inr (stopped index role known own dropper)

/-- A worker that selects when the signal is given, or has not looked at the signal yet, can stop, and it comes to
nothing else: what it selects, it stops at once, or when it has looked at the signal. -/
structure Winding (pool : Pool α κ) (index : Nat) : Prop where
  can : ∃ move next, move.thread? = some index ∧ pool.move? move = some next ∧ next.stages[index]? = some .stopped
  must : ∀ move next, move.thread? = some index → pool.move? move = some next →
    next.stages[index]? = some .stopped ∨
      pool.stages[index]? = some .selecting ∧ next.stages[index]? = some .received

theorem Run.winding (run : Run flags capacity roles history pool) (given : pool.signalled = true)
    (worker : roles[index]? = some .worker)
    (idle : pool.stages[index]? = some .selecting ∨ pool.stages[index]? = some .received) : pool.Winding index where
  can := by
    rcases idle with selects | received
    · refine ⟨.leave index, { pool with stages := pool.stages.set index .stopped }, rfl,
        by simp [move?, selects, given], ?_⟩
      exact List.getElem?_set_self (List.getElem?_eq_some_iff.mp selects).1
    · refine ⟨.look index, { pool with stages := pool.stages.set index .stopped }, rfl,
        by simp [move?, received, given], ?_⟩
      exact List.getElem?_set_self (List.getElem?_eq_some_iff.mp received).1
  must move next own made := by
    obtain ⟨thread, found, role⟩ := run.thread worker
    obtain ⟨_, later, behind, before, there, stands, goes⟩ := goes_of_step (step_of_move made) own found role
    cases goes with
    | receives => exact .inr ⟨before, stands⟩
    | discards | leaves => exact .inl stands
    | commits silent =>
      rw [given] at silent
      cases silent
    | works => simp [before] at idle

theorem operations_of_client {system : System α κ} {moments : List (Interleaving.Moment α κ)}
    (run : Interleaving.Run flags capacity roles moments system) :
    ∀ thread ∈ system.threads, thread.role = .client →
      ∀ frame ∈ thread.stack, ∃ operation, frame.task = .operation operation := by
  induction run with
  | start =>
    intro thread inside _ frame holds
    obtain ⟨_, _, rfl⟩ := List.mem_map.mp inside
    cases holds
  | @move history system next move run made ih =>
    rcases move?_cases made with ⟨index, choice, thread, later, rfl, found, acted, threads, _⟩ |
      ⟨_, _, threads, _⟩ | ⟨_, _, _, threads, _⟩ | ⟨_, _, threads, _⟩
    · intro other inside client
      rw [threads] at inside
      rcases List.mem_or_eq_of_mem_set inside with inside | rfl
      · exact ih other inside client
      · have acts := acts_of_act? acted
        generalize next.store = behind at acts
        have before := ih thread (List.mem_of_getElem? found) (acts.role.symm.trans client)
        cases acts with
        | calls operation =>
          rintro frame inside
          rcases List.mem_cons.mp inside with rfl | inside
          · exact ⟨operation, rfl⟩
          · exact before frame inside
        | releases => exact before
        | takes _ _ own | ticks own => exact absurd client own
        | goesOn _ frame rest _ _ left stack _ went =>
          rw [stack] at before
          intro each inside
          rcases List.mem_append.mp inside with inside | inside
          · cases left with
            | none => cases inside
            | some last =>
              rw [List.mem_singleton.mp inside, (after?_same went).2]
              exact before frame List.mem_cons_self
          · exact before each (List.mem_cons_of_mem _ inside)
    all_goals rwa [threads]

theorem Run.stages_length (run : Run flags capacity roles history pool) : pool.stages.length = roles.length := by
  induction run with
  | start => simp [Pool.start]
  | move _ made ih => cases step_of_move made <;> simpa using ih

theorem Run.returned_since {before : Pool α κ} {drop : Drop}
    (run : Run flags capacity roles (earlier ++ ⟨before, .giveBack⟩ :: later) pool) (drops : before.drop = some drop) :
    pool.drop = some { drop with returned := true } := by
  obtain ⟨dropper, left, returned⟩ := drop
  induction later using List.reverseRecOn generalizing pool with
  | nil =>
    cases step_of_move run.last.2 with
    | giveBack _ was =>
      cases drops.symm.trans was
      rfl
  | append_singleton later moment ih =>
    rw [← List.cons_append, ← List.append_assoc] at run
    obtain ⟨reached, made⟩ := run.last
    have is := ih reached
    have joining := reached.joining is
    generalize moment.move = move at made
    cases step_of_move made with
    | drop _ _ _ _ none_before => simp [is] at none_before
    | join _ _ _ _ was =>
      cases is.symm.trans was
      cases joining.returned rfl
    | giveBack _ was => cases is.symm.trans was
    | _ => exact is

/-- Once a drop on the thread of a client has returned, no thread of the cache makes a move. -/
theorem Run.client_moves {before : Pool α κ} {drop : Drop} {moment : Moment α κ}
    (run : Run flags capacity roles (earlier ++ ⟨before, .giveBack⟩ :: later) pool) (drops : before.drop = some drop)
    (client : roles[drop.dropper]? = some .client) (inside : moment ∈ later) :
    (∃ reached, Run flags capacity roles reached moment.pool) ∧ (∃ next, moment.pool.move? moment.move = some next) ∧
      ∀ index, moment.move.thread? = some index → roles[index]? = some .client := by
  obtain ⟨first, rest, rfl⟩ := List.append_of_mem inside
  rw [← List.cons_append, ← List.append_assoc] at run
  obtain ⟨reached, next, made⟩ := run.made_at
  refine ⟨⟨_, reached⟩, ⟨next, made⟩, fun index own => ?_⟩
  obtain ⟨stage, stands, going⟩ := (step_of_move made).stage own
  have within : index < roles.length := by
    rw [← reached.stages_length]
    exact (List.getElem?_eq_some_iff.mp stands).1
  by_contra other
  have known : roles[index]? = some roles[index] := List.getElem?_eq_getElem within
  have stopped := reached.waits (reached.returned_since drops) rfl known (fun same => other (same ▸ known))
    fun same => other (same ▸ client)
  exact going (Option.some.inj (stands.symm.trans stopped))

theorem thread?_of_inSystem {move : Move α κ} {choice : Choice α κ}
    (stands : move.inSystem? = some (.thread index choice)) : move.thread? = some index := by
  cases move <;> cases stands <;> rfl

theorem moment_of_trace {moment : Interleaving.Moment α κ} (inside : moment ∈ trace history) :
    ∃ pool move, ⟨pool, move⟩ ∈ history ∧ move.inSystem? = some moment.move ∧ moment.system = pool.system := by
  obtain ⟨⟨pool, move⟩, here, told⟩ := List.mem_filterMap.mp inside
  obtain ⟨inner, stands, rfl⟩ := Option.map_eq_some_iff.mp told
  exact ⟨pool, move, here, stands, rfl⟩

/-- From then on there is no act but for an operation of a client, and nothing else is begun. -/
theorem Run.only_operations {before : Pool α κ} {drop : Drop}
    (run : Run flags capacity roles (earlier ++ ⟨before, .giveBack⟩ :: later) pool) (drops : before.drop = some drop)
    (client : roles[drop.dropper]? = some .client) :
    (∀ act ∈ allActs (trace later), ∃ operation, act.frame.task = .operation operation) ∧
      ∀ pair ∈ started (trace later), ∃ operation, pair.2 = .operation operation := by
  refine ⟨fun act among => ?_, fun pair among => ?_⟩
  · obtain ⟨⟨_, inner⟩, here, told⟩ := List.mem_filterMap.mp among
    obtain ⟨now, move, inside, stands, rfl⟩ := moment_of_trace here
    obtain ⟨⟨_, reached⟩, _, clients⟩ := run.client_moves drops client inside
    obtain ⟨index, _, thread, rfl, found, holds⟩ := actor_of_act stands told
    obtain ⟨_, there, role⟩ := reached.thread (clients index rfl)
    cases found.symm.trans there
    exact operations_of_client reached.traced thread (List.mem_of_getElem? found) role _ holds
  · obtain ⟨⟨_, inner⟩, here, told⟩ := List.mem_filterMap.mp among
    obtain ⟨now, move, inside, stands, rfl⟩ := moment_of_trace here
    obtain ⟨⟨_, reached⟩, ⟨next, made⟩, clients⟩ := run.client_moves drops client inside
    cases inner with
    | thread index choice =>
      obtain ⟨thread, found, role⟩ := reached.thread (clients index (thread?_of_inSystem stands))
      have moved : now.system.move? (.thread index choice) = some next.system := by
        rcases inSystem_of_move made with ⟨idle, _⟩ | ⟨_, same, moved⟩
        · cases stands.symm.trans idle
        · cases stands.symm.trans same
          exact moved
      obtain ⟨_, _, there, acted, _⟩ := thread_of_move moved
      cases found.symm.trans there
      cases choice with
      | call operation =>
        cases told
        exact ⟨operation, rfl⟩
      | take | tick => simp [Thread.act?, role] at acted
      | _ => cases told
    | _ => cases told

structure ShutsDown (roles : List Role) (history : List (Moment α κ)) (pool : Pool α κ) : Prop where
  /-- Nothing is ever done for a job that is received when the signal is given. -/
  discards : ∀ earlier before index later, history = earlier ++ ⟨before, .receive index⟩ :: later →
    before.signalled = true → (∃ job, (before.system.clock, .job job) ∈ started (trace history)) ∧
      acts before.system.clock (trace history) = []
  /-- What a worker does once a drop has begun is for the one job that it was in then. -/
  finishes : ∀ earlier before dropper middle now index choice later,
    history = earlier ++ ⟨before, .drop dropper⟩ :: middle ++ ⟨now, .act index choice⟩ :: later →
    roles[index]? = some .worker → ∃ number job, before.InJob index number job ∧ now.InJob index number job
  /-- Once a worker is not in a job any more, it stops, whatever it selects. -/
  stops : pool.signalled = true → ∀ index, roles[index]? = some .worker →
    pool.stages[index]? = some .selecting ∨ pool.stages[index]? = some .received → pool.Winding index
  /-- Once a drop on the thread of a client has returned, only clients make moves, and no job or round goes on or is
  begun. -/
  leaves : ∀ earlier before later drop, history = earlier ++ ⟨before, .giveBack⟩ :: later → before.drop = some drop →
    roles[drop.dropper]? = some .client →
    (∀ moment ∈ later, ∀ index, moment.move.thread? = some index → roles[index]? = some .client) ∧
      (∀ act ∈ allActs (trace later), ∃ operation, act.frame.task = .operation operation) ∧
      ∀ pair ∈ started (trace later), ∃ operation, pair.2 = .operation operation
  /-- A drop that has returned has waited for all threads of the cache but the one that it was made on. -/
  waits : ∀ drop, pool.drop = some drop → drop.returned = true → ∀ index role, roles[index]? = some role →
    role ≠ .client → index ≠ drop.dropper → pool.stages[index]? = some .stopped
  /-- For that one it does not wait: once the others have stopped it joins them and returns. -/
  returns : ∀ drop, pool.drop = some drop → drop.returned = false →
    (∀ index role, roles[index]? = some role → role ≠ .client → index ≠ drop.dropper →
      pool.stages[index]? = some .stopped) →
    ∃ made last, pool.follow (List.replicate drop.left.length .join ++ [.giveBack]) = some (made, last) ∧
      last.drop = some { drop with left := [], returned := true }

/-- When the threads of a cache are dropped, a worker finishes the one job that it is in, if any, and stops without
another one, whatever it selects; a job that is received then is never run. The drop returns when all threads have
stopped but the one that it was made on; after one on the thread of a client, nothing but operations of clients goes
on. -/
theorem drop_discards_what_has_not_begun (run : Run flags capacity roles history pool) :
    ShutsDown roles history pool where
  discards := by
    rintro earlier before index later rfl given
    exact run.discards given
  finishes := by
    rintro earlier before dropper middle now index choice later rfl worker
    obtain ⟨reached, next, made⟩ := run.made_at
    have step := step_of_move made
    cases step with
    | act _ _ _ _ works => exact reached.same_job worker works
  stops given index worker := run.winding given worker
  leaves := by
    rintro earlier before later drop rfl drops client
    exact ⟨fun moment inside => (run.client_moves drops client inside).2.2, run.only_operations drops client⟩
  waits drop drops returned index role known own other := run.waits drops returned known own other
  returns drop drops open_still stopped := run.returns drops open_still stopped

end Runs

/-- A worker is in a job when a client drops the threads; another worker receives a job and throws it away. -/
def droppedByClient : List (Move Unit Unit) :=
  [.act 0 (.call (.addParse { request := ⟨⟨"a.c"⟩, [], none⟩ })), .act 0 .proceed, .act 0 .proceed,
    .act 0 (.call (.addParse { request := ⟨⟨"b.c"⟩, [], none⟩ })), .act 0 .proceed, .act 0 .proceed,
    .receive 1, .look 1, .act 1 .proceed, .act 1 .proceed, .drop 0, .receive 2, .look 2, .leave 3,
    .act 1 (.parsed (.ok ())), .act 1 .proceed, .act 1 .proceed, .leave 1, .join, .join, .join, .giveBack]

/-- A callback drops the threads, and goes on when the other worker has stopped. -/
def droppedInCallback : List (Move Unit Unit) :=
  [.act 0 (.call (.addParse { request := ⟨⟨"a.c"⟩, [], none⟩, callback := some () })), .act 0 .proceed, .act 0 .proceed,
    .receive 1, .look 1, .act 1 .proceed, .act 1 .proceed, .act 1 (.parsed (.ok ())), .act 1 .proceed, .act 1 .proceed,
    .drop 1, .leave 2, .join, .join, .giveBack, .act 1 (.returned false), .leave 1]

theorem drop_returns_on_client_and_in_callback :
    (∃ (history : List (Moment Unit Unit)) (pool : Pool Unit Unit),
      Run ⟨0⟩ 2 [.client, .worker, .worker, .ticker] history pool ∧ pool.drop = some ⟨0, [], true⟩ ∧
      pool.system.store.peek ⟨"a.c"⟩ = some ⟨0, ⟨⟨"a.c"⟩, [], none⟩⟩ ∧ pool.system.store.peek ⟨"b.c"⟩ = none ∧
      ShutsDown [.client, .worker, .worker, .ticker] history pool) ∧
    ∃ (history : List (Moment Unit Unit)) (pool : Pool Unit Unit),
      Run ⟨0⟩ 2 [.client, .worker, .worker] history pool ∧ pool.drop = some ⟨1, [], true⟩ ∧
      pool.stages = [.working, .stopped, .stopped] ∧ ShutsDown [.client, .worker, .worker] history pool := by
  refine ⟨?_, ?_⟩
  · obtain ⟨history, pool, run, checked⟩ := Run.of_follow ⟨0⟩ 2 [.client, .worker, .worker, .ticker] droppedByClient
      (fun _ pool => pool.drop == some ⟨0, [], true⟩ &&
        (pool.system.store.peek ⟨"a.c"⟩ == some ⟨0, ⟨⟨"a.c"⟩, [], none⟩⟩ && pool.system.store.peek ⟨"b.c"⟩ == none))
      (by decide)
    simp only [Bool.and_eq_true, beq_iff_eq] at checked
    obtain ⟨dropped, built, unbuilt⟩ := checked
    exact ⟨history, pool, run, dropped, built, unbuilt, drop_discards_what_has_not_begun run⟩
  · obtain ⟨history, pool, run, checked⟩ := Run.of_follow ⟨0⟩ 2 [.client, .worker, .worker] droppedInCallback
      (fun _ pool => pool.drop == some ⟨1, [], true⟩ && pool.stages == [.working, .stopped, .stopped]) (by decide)
    simp only [Bool.and_eq_true, beq_iff_eq] at checked
    obtain ⟨dropped, stopped⟩ := checked
    exact ⟨history, pool, run, dropped, stopped, drop_discards_what_has_not_begun run⟩

end Pool

end UnitCache
