import UnitCache.Proofs.Events
/-!
A cache that knows of one path only does what a cache that knows of many does for this path. Each move is matched by one
that does the same, if it does anything for the path, and by none if it does not.
-/
namespace UnitCache.Interleaving

variable {α κ : Type}

/-- A cache that knows of one path only, beside one that knows of many. -/
structure Beside (path : Path) (mine : Nat → Bool) (system alone : System α κ) : Prop where
  stores : Restricts path mine system.store alone.store
  threads : Doubled path (rank mine) system.threads alone.threads
  alive : alone.stopping = false

structure Scene (path : Path) (mine : Nat → Bool) (system : System α κ) : Prop where
  keyed : Keyed system.store
  sited : ∀ frame ∈ system.frames, Sited frame
  resting : ∀ thread ∈ system.threads, ∀ frame ∈ thread.stack.tail, outside frame.activity = true
  used : ∀ frame ∈ system.frames, ∀ handle ∈ frame.activity.handles, mine handle.number = (path == handle.request.path)
  guards : ∀ thread ∈ system.threads, ∀ handle ∈ thread.guards, mine handle.number = (path == handle.request.path)
  units : ∀ place handle, (place == path) = true → system.store.peek place = some handle → mine handle.number = true
  isOpen : system.store.queue.isOpen = true

inductive Matched (path : Path) (mine : Nat → Bool) (system : System α κ) (move : Move α κ) (next alone : System α κ) :
    Prop where
  | unmatched (untold : Moment.event? path (rank mine) ⟨system, move⟩ = none) (beside : Beside path mine next alone)
  | matched (index place : Nat) (choice again : Choice α κ) (event : Event α κ) (after : System α κ)
      (same : move = .thread index choice) (told : Moment.event? path (rank mine) ⟨system, move⟩ = some event)
      (its : place % system.threads.length = index) (made : alone.move? (.thread place again) = some after)
      (told_alone : Moment.event? path id ⟨alone, .thread place again⟩ = some event)
      (beside : Beside path mine next after)

/-- A thread does for the path, where there is no other one, what is done for it among others. -/
def Plays (path : Path) (mine : Nat → Bool) (next : Store α κ) (alone : System α κ) (again : Choice α κ)
    (event : Event α κ) (doer later : Thread α κ) : Prop :=
  ∃ after, doer.act? alone.clock alone.store again = some (after, later) ∧ Restricts path mine next after ∧
    ∀ place, alone.threads[place]? = some doer → Moment.event? path id ⟨alone, .thread place again⟩ = some event

section Moves

variable {path : Path} {mine : Nat → Bool} {system next alone : System α κ} {index : Nat} {thread later : Thread α κ}
  {choice : Choice α κ} {event : Event α κ}

theorem Beside.unmatched (beside : Beside path mine system alone) (found : system.threads[index]? = some thread)
    (threads : next.threads = system.threads.set index later)
    (untold : Moment.event? path (rank mine) ⟨system, .thread index choice⟩ = none)
    (stores : Restricts path mine next.store alone.store) (role : later.role = thread.role)
    (guards : (later.guards.filter fun handle => path == handle.request.path).Perm
      (thread.guards.filter fun handle => path == handle.request.path))
    (stack : later.stack.filter (Frame.on path) = thread.stack.filter (Frame.on path)) :
    Matched path mine system (.thread index choice) next alone := by
  refine .unmatched untold ⟨stores, ?_, beside.alive⟩
  rw [threads]
  exact beside.threads.same found fun _ _ doubles => doubles.same role guards stack

theorem Beside.matched (beside : Beside path mine system alone) (again : Choice α κ)
    (found : system.threads[index]? = some thread) (threads : next.threads = system.threads.set index later)
    (told : Moment.event? path (rank mine) ⟨system, .thread index choice⟩ = some event)
    (each : ∀ main double, Doubles path (rank mine) thread main double →
      (∃ after, Plays path mine next.store alone again event main after ∧ Doubles path (rank mine) later after double) ∨
      ∃ after, Plays path mine next.store alone again event double after ∧ Doubles path (rank mine) later main after) :
    Matched path mine system (.thread index choice) next alone := by
  obtain ⟨place, doer, last, there, its, ⟨after, acted, stores, told_alone⟩, doubled⟩ := beside.threads.one found _ each
  refine .matched index place choice again event
    { alone with store := after, threads := alone.threads.set place last, clock := alone.clock + 1 } rfl told its ?_
    (told_alone place there) ⟨stores, ?_, beside.alive⟩
  · simp [System.move?, there, acted]
  · rw [threads]
    exact doubled

theorem outside_of_atLarge (resting : ∀ frame ∈ thread.stack.tail, outside frame.activity = true)
    (large : thread.atLarge = true) : ∀ frame ∈ thread.stack, outside frame.activity = true := by
  unfold Thread.atLarge at large
  cases stack : thread.stack with
  | nil => simp
  | cons top under =>
    rw [stack] at large resting
    exact List.forall_mem_cons.mpr ⟨large, resting⟩

theorem Plays.call {store : Store α κ} {doer : Thread α κ} {operation : Operation κ} (may : doer.mayCall = true)
    (stores : Restricts path mine store alone.store)
    (on : Frame.on path (⟨alone.clock, .operation operation, operation.activity⟩ : Frame α κ) = true) :
    Plays path mine store alone (.call operation) (.begins (.operation operation)) doer
      (doer.begin alone.clock (.operation operation) operation.activity) := by
  refine ⟨alone.store, by simp [Thread.act?, may], stores, fun place _ => ?_⟩
  have begun : Moment.begins? (⟨alone, .thread place (.call operation)⟩ : Moment α κ) =
      some (alone.clock, .operation operation) := rfl
  rw [event?_of_begins begun, if_pos (by exact on), Task.renumber_id]

theorem Beside.call (beside : Beside path mine system alone) (scene : Scene path mine system)
    (found : system.threads[index]? = some thread) {operation : Operation κ} (may : thread.mayCall = true)
    (store : next.store = system.store) (threads : next.threads =
      system.threads.set index (thread.begin system.clock (.operation operation) operation.activity)) :
    Matched path mine system (.thread index (.call operation)) next alone := by
  have begun : Moment.begins? (⟨system, .thread index (.call operation)⟩ : Moment α κ) =
      some (system.clock, .operation operation) := rfl
  have stores : Restricts path mine next.store alone.store := store ▸ beside.stores
  cases on : Frame.on path (⟨system.clock, .operation operation, operation.activity⟩ : Frame α κ) with
  | false =>
    refine beside.unmatched found threads ?_ stores rfl .rfl ?_
    · rw [event?_of_begins begun, if_neg (by exact Bool.eq_false_iff.mp on)]
    · simp [Thread.begin, on]
  | true =>
    have again : Frame.on path (⟨alone.clock, .operation (operation.renumber (rank mine)),
        (operation.renumber (rank mine)).activity⟩ : Frame α κ) = true := by
      rw [← on, Frame.on_of_other rfl, Frame.on_of_other rfl, Operation.activity_renumber, names_renumber, names_single]
    have told : Moment.event? path (rank mine) (⟨system, .thread index (.call operation)⟩ : Moment α κ) =
        some (.begins (.operation (operation.renumber (rank mine)))) := (event?_of_begins begun).trans (if_pos on)
    refine beside.matched (.call (operation.renumber (rank mine))) found threads told fun main double doubles => ?_
    · have large : thread.atLarge = true := by
        rw [Thread.mayCall, Bool.and_eq_true] at may
        exact may.1
      have quiet := outside_of_atLarge (scene.resting thread (List.mem_of_getElem? found)) large
      have mirrors : Mirrors (rank mine) (⟨system.clock, .operation operation, operation.activity⟩ : Frame α κ)
          ⟨alone.clock, .operation (operation.renumber (rank mine)), (operation.renumber (rank mine)).activity⟩ :=
        ⟨Operation.activity_renumber .., rfl⟩
      have quiet_here : ∀ frame ∈ thread.stack.filter (Frame.on path), outside frame.activity = true :=
        fun frame inside => quiet frame (List.mem_of_mem_filter inside)
      rcases doubles.calls (thread.begin system.clock (.operation operation) operation.activity) alone.clock quiet_here
        rfl rfl (List.filter_cons_of_pos on) mirrors with ⟨may, after⟩ | ⟨may, after⟩
      · exact .inl ⟨_, .call may stores again, after⟩
      · exact .inr ⟨_, .call may stores again, after⟩

theorem Restricts.of_jobs {store alone : Store α κ} (restricts : Restricts path mine store alone)
    {jobs others : List (Job κ)} (same : others = jobs.filter fun job => path == job.request.path) :
    Restricts path mine { store with queue := { store.queue with jobs } }
      { alone with queue := { alone.queue with jobs := others } } :=
  ⟨restricts.flags, restricts.views, same, restricts.capacity, restricts.isOpen, restricts.count, restricts.cells⟩

theorem Restricts.dequeue {store alone next : Store α κ} (restricts : Restricts path mine store alone) {job : Job κ}
    (taken : store.dequeue = some (job, next)) :
    if path == job.request.path then
      ∃ after, alone.dequeue = some (job, after) ∧ Restricts path mine next after
    else Restricts path mine next alone := by
  obtain ⟨first, same⟩ := dequeue_eq taken
  have jobs := restricts.jobs
  rw [first, List.filter_cons] at jobs
  rw [same]
  split
  next on =>
    rw [if_pos on] at jobs
    have isOpen : alone.queue.isOpen = true := by
      rw [restricts.isOpen]
      unfold Store.dequeue at taken
      split at taken
      next => cases taken
      next => exact (Option.ite_none_right_eq_some.mp taken).1
    exact ⟨_, by rw [Store.dequeue, jobs]; exact if_pos isOpen, restricts.of_jobs rfl⟩
  next off =>
    rw [if_neg off] at jobs
    exact restricts.of_jobs jobs

theorem Beside.take (beside : Beside path mine system alone) (found : system.threads[index]? = some thread)
    {job : Job κ} (own : thread.role = .worker) (idle : thread.stack = [])
    (taken : system.store.dequeue = some (job, next.store)) (threads : next.threads =
      system.threads.set index (thread.begin system.clock (.job job) (.ofJob job))) :
    Matched path mine system (.thread index .take) next alone := by
  have begun : Moment.begins? (⟨system, .thread index .take⟩ : Moment α κ) = some (system.clock, .job job) := by
    simp [Moment.begins?, taken]
  have dequeued := beside.stores.dequeue taken
  cases on : path == job.request.path with
  | false =>
    rw [on, if_neg Bool.false_ne_true] at dequeued
    refine beside.unmatched found threads ?_ dequeued rfl .rfl ?_
    · rw [event?_of_begins begun, Frame.on_of_job rfl, on, if_neg Bool.false_ne_true]
    · exact List.filter_cons_of_neg (by rw [Frame.on_of_job rfl, on]; exact Bool.false_ne_true)
  | true =>
    rw [on, if_pos rfl] at dequeued
    obtain ⟨after, again, stores⟩ := dequeued
    have told : Moment.event? path (rank mine) (⟨system, .thread index .take⟩ : Moment α κ) =
        some (.begins (.job job)) := by
      rw [event?_of_begins begun, Frame.on_of_job rfl, on, if_pos rfl]
      rfl
    refine beside.matched .take found threads told fun main double doubles => ?_
    have mirrors : Mirrors (rank mine) (⟨system.clock, .job job, .ofJob job⟩ : Frame α κ)
        ⟨alone.clock, .job job, .ofJob job⟩ := by
      refine ⟨?_, rfl⟩
      unfold Activity.ofJob
      split <;> rfl
    obtain ⟨free, later⟩ := doubles.begins idle ((Frame.on_of_job rfl).trans on) mirrors
    refine .inl ⟨_, ⟨after, ?_, stores, fun place there => ?_⟩, later⟩
    · simp [Thread.act?, doubles.role, own, free, again]
    · have begun : Moment.begins? (⟨alone, .thread place .take⟩ : Moment α κ) = some (alone.clock, .job job) := by
        simp [Moment.begins?, again]
      rw [event?_of_begins begun, Frame.on_of_job rfl, on, if_pos rfl]
      rfl

theorem Beside.tick (beside : Beside path mine system alone) (found : system.threads[index]? = some thread)
    (store : next.store = system.store)
    (threads : next.threads = system.threads.set index (thread.begin system.clock .tick .collect)) :
    Matched path mine system (.thread index .tick) next alone := by
  have off : Frame.on path (⟨system.clock, .tick, .collect⟩ : Frame α κ) = false := rfl
  have begun : Moment.begins? (⟨system, .thread index .tick⟩ : Moment α κ) = some (system.clock, .tick) := rfl
  refine beside.unmatched found threads ?_ (store ▸ beside.stores) rfl .rfl (List.filter_cons_of_neg (by simp [off]))
  rw [event?_of_begins begun]
  exact if_neg (by exact Bool.eq_false_iff.mp off)

theorem event?_of_release (path : Path) (number : Nat → Nat) (system : System α κ) (index : Nat) (handle : Handle) :
    Moment.event? path number (⟨system, .thread index (.release handle)⟩ : Moment α κ) =
      if path == handle.request.path then some (.releases (handle.renumber number)) else none := by
  have old : Moment.begins? (⟨system, .thread index (.release handle)⟩ : Moment α κ) = none := rfl
  have idle : Moment.act? (⟨system, .thread index (.release handle)⟩ : Moment α κ) = none := act?_eq_none fun _ _ => rfl
  simp only [Moment.event?, old, idle]

theorem Beside.release (beside : Beside path mine system alone) (scene : Scene path mine system)
    (found : system.threads[index]? = some thread) {handle : Handle} (large : thread.atLarge = true)
    (held : handle ∈ thread.guards) (store : next.store = system.store.unlock handle.number)
    (threads : next.threads = system.threads.set index { thread with guards := thread.guards.erase handle }) :
    Matched path mine system (.thread index (.release handle)) next alone := by
  have inside := List.mem_of_getElem? found
  have unit := scene.guards thread inside handle held
  cases on : path == handle.request.path with
  | false =>
    rw [on] at unit
    refine beside.unmatched found threads ?_ ?_ rfl ?_ rfl
    · rw [event?_of_release, on, if_neg Bool.false_ne_true]
    · rw [store]
      exact beside.stores.aside (.unlocks handle) (by rintro _ ⟨⟩; exact BEq.comm.trans on)
        (by rintro _ ⟨⟩; exact unit) nofun
    · have split := (List.perm_cons_erase held).filter fun handle => path == handle.request.path
      rw [List.filter_cons_of_neg (by rw [on]; exact Bool.false_ne_true)] at split
      exact split.symm
  | true =>
    rw [on] at unit
    have stores : Restricts path mine next.store (alone.store.unlock (rank mine handle.number)) := by
      rw [store]
      exact beside.stores.unlock (BEq.symm on) unit
    have told : Moment.event? path (rank mine) (⟨system, .thread index (.release handle)⟩ : Moment α κ) =
        some (.releases (handle.renumber (rank mine))) := by rw [event?_of_release, on, if_pos rfl]
    have told_alone (place : Nat) : Moment.event? path id
        (⟨alone, .thread place (.release (handle.renumber (rank mine)))⟩ : Moment α κ) =
          some (.releases (handle.renumber (rank mine))) := by
      rw [event?_of_release]
      exact if_pos on
    refine beside.matched (.release (handle.renumber (rank mine))) found threads told fun main double doubles => ?_
    have quiet := outside_of_atLarge (scene.resting thread inside) large
    rcases doubles.releases (fun frame there => quiet frame (List.mem_of_mem_filter there)) held on with
      ⟨large, there, after⟩ | ⟨large, there, after⟩
    · refine .inl ⟨_, ⟨_, ?_, stores, fun place _ => told_alone place⟩, after⟩
      simp only [Thread.act?, large, List.contains_iff_mem.mpr there, Bool.and_true, if_true]
      rfl
    · refine .inr ⟨_, ⟨_, ?_, stores, fun place _ => told_alone place⟩, after⟩
      simp only [Thread.act?, large, List.contains_iff_mem.mpr there, Bool.and_true, if_true]
      rfl

structure GoesOn (system : System α κ) (index : Nat) (choice : Choice α κ) (next : System α κ) (thread : Thread α κ)
    (frame : Frame α κ) (rest : List (Frame α κ)) (turn : Turn α κ) (left : Option (Frame α κ)) : Prop where
  found : system.threads[index]? = some thread
  stack : thread.stack = frame :: rest
  chosen : turn? thread.background system.store frame.activity choice = some turn
  made : frame.after? turn = some (next.store, left)
  threads : next.threads = system.threads.set index (.goesOn thread.role thread.guards frame left rest)
  later : ∀ behind ∈ left, Sited behind

section Acts

variable {frame mirror : Frame α κ} {rest : List (Frame α κ)} {turn : Turn α κ} {left : Option (Frame α κ)}

theorem act?_of_stack (found : system.threads[index]? = some thread) (stack : thread.stack = frame :: rest)
    (chosen : turn? thread.background system.store frame.activity choice = some turn) :
    Moment.act? ⟨system, .thread index choice⟩ = some ⟨thread.background, system.store, frame, choice⟩ ∧
      Moment.begins? (⟨system, .thread index choice⟩ : Moment α κ) = none := by
  refine ⟨by simp [Moment.act?, found, stack, Act.turn?, chosen], ?_⟩
  cases choice <;> first | rfl | cases chosen

theorem GoesOn.inside (goes : GoesOn system index choice next thread frame rest turn left) : frame ∈ system.frames :=
  act_inside (act?_of_stack goes.found goes.stack goes.chosen).1

theorem call?_of_mirrors {store other : Store α κ} (flags : other.flags = store.flags) {number : Nat → Nat}
    (mirrors : Mirrors number frame mirror) (background own : Bool) :
    Act.call? ⟨own, other, mirror, choice⟩ =
      (Act.call? ⟨background, store, frame, choice⟩).map (EngineCall.renumber number) := by
  rw [Act.call?_eq, Act.call?_eq]
  dsimp only
  rw [mirrors.activity]
  cases frame.activity with
  | parsing request owner => simp [Activity.single, Activity.renumber, EngineCall.renumber, flags]
  | «using» handle use =>
    cases use <;> simp [Activity.single, Activity.renumber, Activity.callFor, EngineCall.renumber, flags]
  | _ => rfl

theorem left_off {store after : Store α κ} {background : Bool} (keyed : Keyed store) (sited : Sited frame)
    (later : ∀ behind ∈ left, Sited behind) (chosen : turn? background store frame.activity choice = some turn)
    (made : frame.after? turn = some (after, left)) (off : frame.on path = false)
    (other : ∀ request left queued, frame.activity = .refreshNext (request :: left) queued → choice = .proceed →
      (path == request.path) = false) : left.toList.filter (Frame.on path) = [] := by
  cases turn with
  | next store behind warnings =>
    cases made
    have its_own := later _ rfl
    refine List.filter_cons_of_neg (Bool.not_eq_true _ ▸ ?_)
    cases all : ofAll frame.activity with
    | false => exact sited.stays_off keyed chosen off all
    | true =>
      rcases ofAll_of_turn chosen all with all | ⟨request, left, queued, activity, proceeds, -, rfl⟩
      · exact its_own.off_of_all all
      · have apart := other request left queued activity proceeds
        rw [Frame.on_of_other (by exact sited.all all)]
        simp [names, apart]
  | done =>
    cases made
    rfl
  | _ => cases made

theorem Beside.act_off (beside : Beside path mine system alone) (scene : Scene path mine system)
    (goes : GoesOn system index choice next thread frame rest turn left)
    (fresh : ∀ request artifact owner, frame.activity = .keep request artifact owner →
      mine system.store.cells.length = (path == request.path)) (off : frame.on path = false)
    (other : ∀ request left queued, frame.activity = .refreshNext (request :: left) queued → choice = .proceed →
      (path == request.path) = false) : Matched path mine system (.thread index choice) next alone := by
  have inside := goes.inside
  obtain ⟨found, stack, chosen, made, threads, later⟩ := goes
  have sited := scene.sited frame inside
  have names_off := sited.placed.names_of_off off
  obtain ⟨acts, old⟩ := act?_of_stack found stack chosen
  refine beside.unmatched found threads ?_ ?_ rfl ?_ ?_
  · rw [event?_of_act old acts]
    exact Act.event?_of_off off other
  · exact beside.stores.passes names_off (scene.used frame inside) fresh chosen (storeOf?_after made)
  · simp only [Thread.goesOn]
    split
    next =>
      rw [List.filter_append, List.filter_eq_nil_iff.mpr, List.nil_append]
      intro handle held
      have apart := names_off _ (names_of_kept (Option.mem_toList.mp held))
      rw [BEq.comm.trans apart]
      exact Bool.false_ne_true
    next => exact .rfl
  · rw [stack, List.filter_cons_of_neg (by rw [off]; exact Bool.false_ne_true), Thread.goesOn, List.filter_append,
      left_off scene.keyed sited later chosen made off other, List.nil_append]

/-- Where all units are built anew and the path has its turn, this is matched by a call for its unit. -/
theorem Beside.act_next (beside : Beside path mine system alone) (scene : Scene path mine system)
    (goes : GoesOn system index .proceed next thread frame rest turn left) {request : Request} {others : List Request}
    {queued : Nat} (activity : frame.activity = .refreshNext (request :: others) queued)
    (here : (path == request.path) = true) : Matched path mine system (.thread index .proceed) next alone := by
  have inside := goes.inside
  obtain ⟨found, stack, chosen, made, threads, -⟩ := goes
  have sited := scene.sited frame inside
  have all : ofAll frame.activity = true := by rw [activity]; rfl
  have off : frame.on path = false := sited.off_of_all all
  obtain ⟨acts, old⟩ := act?_of_stack found stack chosen
  have told : Moment.event? path (rank mine) (⟨system, .thread index .proceed⟩ : Moment α κ) =
      some (.begins (.operation (.addReparse { request }))) := by
    rw [event?_of_act old acts]
    exact Act.event?_of_next off activity rfl here
  rw [activity] at chosen
  cases chosen
  simp only [Activity.step, Frame.after?, Option.some.injEq, Prod.mk.injEq] at made
  obtain ⟨store, rfl⟩ := made
  have stores : Restricts path mine next.store alone.store := store ▸ beside.stores
  let behind : Frame α κ := ⟨frame.number, frame.task, .admitReparse { request } (.refreshing others queued)⟩
  have on : behind.on path = true := by
    rw [Frame.on_of_other (by exact sited.all all)]
    simp [behind, names, here]
  have again : Frame.on path (⟨alone.clock, .operation (.addReparse { request }),
      (Operation.addReparse { request }).activity⟩ : Frame α κ) = true := by
    rw [Frame.on_of_other rfl]
    simp [Operation.activity, names, here]
  have filtered : thread.stack.filter (Frame.on path) = rest.filter (Frame.on path) := by
    rw [stack, List.filter_cons_of_neg (by rw [off]; exact Bool.false_ne_true)]
  refine beside.matched (.call (.addReparse { request })) found threads told fun main double doubles => ?_
  have mirrors : Mirrors (rank mine) behind
      ⟨alone.clock, .operation (.addReparse { request }), (Operation.addReparse { request }).activity⟩ :=
    ⟨rfl, (sited.all all).symm⟩
  have quiet : ∀ frame ∈ thread.stack.filter (Frame.on path), outside frame.activity = true := by
    rw [filtered]
    intro other there
    refine scene.resting thread (List.mem_of_getElem? found) other ?_
    rw [stack]
    exact List.mem_of_mem_filter there
  have pushed : (Thread.goesOn thread.role thread.guards frame (some behind) rest).stack.filter (Frame.on path) =
      behind :: thread.stack.filter (Frame.on path) := by
    rw [filtered]
    exact List.filter_cons_of_pos on
  rcases doubles.calls (.goesOn thread.role thread.guards frame (some behind) rest) alone.clock quiet rfl rfl pushed
    mirrors with ⟨may, after⟩ | ⟨may, after⟩
  · exact .inl ⟨_, .call may stores again, after⟩
  · exact .inr ⟨_, .call may stores again, after⟩

theorem Mirrors.plays (mirrors : Mirrors (rank mine) frame mirror) (beside : Beside path mine system alone)
    (scene : Scene path mine system) (goes : GoesOn system index choice next thread frame rest turn left)
    (fresh : ∀ request artifact owner, frame.activity = .keep request artifact owner →
      mine system.store.cells.length = (path == request.path))
    (roomy : ∀ job giving, frame.activity = .enqueue job giving →
      (system.store.enqueue thread.background job).1 ≠ .full) (on : frame.on path = true)
    (told : Act.event? path (rank mine) ⟨thread.background, system.store, frame, choice⟩ = some event)
    {doer : Thread α κ} {others : List (Frame α κ)} (stack : doer.stack = mirror :: others) :
    ∃ mirrored, List.Forall₂ (Mirrors (rank mine)) (left.toList.filter (Frame.on path)) mirrored ∧
      Plays path mine next.store alone choice event doer { doer with
        guards := (if left.isNone then frame.kept.toList else []).map (Handle.renumber (rank mine)) ++ doer.guards
        stack := mirrored ++ others } := by
  have inside := goes.inside
  obtain ⟨-, -, chosen, made, -, later⟩ := goes
  have sited := scene.sited frame inside
  obtain ⟨after, stores, goes⟩ := beside.stores.goes_on (sited.placed.names_of_on on) (sited.named on) scene.units
    (scene.used frame inside) fresh scene.isOpen roomy chosen (storeOf?_after made) doer.background
  obtain ⟨mirrored, went, alike, kept⟩ := mirrors.after sited later scene.keyed chosen made on after
  rw [← mirrors.activity] at goes
  refine ⟨mirrored.toList, alike, after, ?_, stores, fun place there => ?_⟩
  · obtain ⟨role, guards, frames⟩ := doer
    cases stack
    rw [act?_of_turn goes went alone.clock, Thread.goesOn, ← kept]
    cases mirrored <;> rfl
  · obtain ⟨acts, old⟩ := act?_of_stack there stack goes
    have its_own : Act.event? path id ⟨doer.background, alone.store, mirror, choice⟩ = some event := by
      have turned : Act.turn? ⟨doer.background, alone.store, mirror, choice⟩ =
          some ((turn.single frame.activity).over (rank mine) after) := goes
      have before : Act.turn? ⟨thread.background, system.store, frame, choice⟩ = some turn := chosen
      rw [Act.event?_of_on (by exact on) before] at told
      rw [Act.event?_of_on (by exact (mirrors.on path).trans on) turned,
        call?_of_mirrors beside.stores.flags mirrors thread.background, Turn.event?_over_id]
      dsimp only
      rw [mirrors.activity, single_over_single, Activity.single_renumber, Activity.single_single, Activity.renumber_id,
        ← told, Turn.event?_over _ _ _ _ after system.store, EngineCall.map_renumber_id]
    rw [event?_of_act old acts, its_own]

theorem Beside.act_on (beside : Beside path mine system alone) (scene : Scene path mine system)
    (goes : GoesOn system index choice next thread frame rest turn left)
    (fresh : ∀ request artifact owner, frame.activity = .keep request artifact owner →
      mine system.store.cells.length = (path == request.path))
    (roomy : ∀ job giving, frame.activity = .enqueue job giving →
      (system.store.enqueue thread.background job).1 ≠ .full) (on : frame.on path = true) :
    Matched path mine system (.thread index choice) next alone := by
  have inside := goes.inside
  have ⟨found, stack, chosen, made, threads, _⟩ := goes
  obtain ⟨acts, old⟩ := act?_of_stack found stack chosen
  have left_store : storeOf? ((turn.single frame.activity).over (rank mine) system.store) = some system.store :=
    storeOf?_over _ (by rw [storeOf?_single, storeOf?_after made]; rfl)
  have turned : Act.turn? ⟨thread.background, system.store, frame, choice⟩ = some turn := chosen
  obtain ⟨event, known⟩ := Turn.event?_of_storeOf? left_store
    ((Act.call? ⟨thread.background, system.store, frame, choice⟩).map (EngineCall.renumber (rank mine)))
    (frame.activity.single.renumber (rank mine)) choice
  have told : Act.event? path (rank mine) ⟨thread.background, system.store, frame, choice⟩ = some event :=
    (Act.event?_of_on (by exact on) turned).trans known
  have own : thread.stack.filter (Frame.on path) = frame :: rest.filter (Frame.on path) := by
    rw [stack, List.filter_cons_of_pos on]
  have gained : (Thread.goesOn thread.role thread.guards frame left rest).guards.filter
      (fun handle => path == handle.request.path) =
        (if left.isNone then frame.kept.toList else []) ++
          thread.guards.filter fun handle => path == handle.request.path := by
    simp only [Thread.goesOn]
    split
    next =>
      rw [List.filter_append, List.filter_eq_self.mpr]
      intro handle held
      exact BEq.symm ((scene.sited frame inside).placed.names_of_on on _ (names_of_kept (Option.mem_toList.mp held)))
    next => rfl
  refine beside.matched choice found threads ((event?_of_act old acts).trans told) fun main double doubles => ?_
  obtain ⟨mirror, others, mirrors, ⟨top, each⟩ | ⟨top, each⟩⟩ :=
    doubles.goes_on (.goesOn thread.role thread.guards frame left rest) own rfl gained
      (List.filter_append left.toList rest)
  all_goals
    obtain ⟨mirrored, alike, plays⟩ := mirrors.plays beside scene goes fresh roomy on told top
  · exact .inl ⟨_, plays, each mirrored alike⟩
  · exact .inr ⟨_, plays, each mirrored alike⟩

end Acts

theorem worker_of_take {clock : Nat} {store after : Store α κ}
    (acted : thread.act? clock store .take = some (after, later)) : thread.role = .worker := by
  simp only [Thread.act?, Option.ite_none_right_eq_some, Bool.and_eq_true, beq_iff_eq] at acted
  exact acted.1.1

/-- Each move is matched, unless the cache is given up or a job for the path is refused for want of room. -/
theorem Beside.move {move : Move α κ} (beside : Beside path mine system alone) (scene : Scene path mine system)
    (sited : ∀ frame ∈ next.frames, Sited frame) (alive : next.stopping = false) (made : system.move? move = some next)
    (fresh : ∀ act, Moment.act? ⟨system, move⟩ = some act → ∀ request artifact owner,
      act.frame.activity = .keep request artifact owner → mine system.store.cells.length = (path == request.path))
    (roomy : ∀ act, Moment.act? ⟨system, move⟩ = some act → act.frame.on path = true → ∀ job giving,
      act.frame.activity = .enqueue job giving → (act.store.enqueue act.background job).1 ≠ .full) :
    Matched path mine system move next alone := by
  rcases move?_cases made with ⟨index, choice, thread, later, rfl, found, acted, threads, _⟩ |
    ⟨_, _, _, stopped⟩ | ⟨_, _, _, _, _, stopped⟩ | ⟨rfl, _, _, stays⟩
  · have acts := acts_of_act? acted
    generalize store : next.store = behind at acts
    cases acts with
    | calls operation may => exact beside.call scene found may store threads
    | releases handle large held => exact beside.release scene found large held store threads
    | takes job _ _ idle taken => exact beside.take found (worker_of_take acted) idle (store ▸ taken) threads
    | ticks => exact beside.tick found store threads
    | goesOn _ frame rest turn _ left stack chosen went =>
      subst store
      have told := (act?_of_stack found stack chosen).1
      have goes : GoesOn system index choice next thread frame rest turn left := by
        refine ⟨found, stack, chosen, went, threads, ?_⟩
        rintro behind ⟨⟩
        have place : index < system.threads.length := (List.getElem?_eq_some_iff.mp found).1
        exact sited behind (List.mem_flatMap.mpr ⟨_, threads ▸ List.mem_set place _, List.mem_cons_self⟩)
      cases on : frame.on path with
      | true =>
        exact beside.act_on scene goes (fresh _ told) (roomy _ told on) on
      | false =>
        by_cases turn_comes : ∃ request others queued, frame.activity = .refreshNext (request :: others) queued ∧
            choice = .proceed ∧ (path == request.path) = true
        · obtain ⟨request, others, queued, activity, rfl, here⟩ := turn_comes
          exact beside.act_next scene goes activity here
        · refine beside.act_off scene goes (fresh _ told) on ?_
          intro request others queued activity proceeds
          exact Bool.eq_false_iff.mpr fun here => turn_comes ⟨request, others, queued, activity, proceeds, here⟩
  · rw [stopped] at alive
    cases alive
  · rw [stopped] at alive
    cases alive
  · simp only [System.move?, Option.ite_none_right_eq_some] at made
    rw [stays, made.1] at alive
    cases alive

end Moves

end UnitCache.Interleaving
