import Mathlib.Data.List.Perm.Basic
import UnitCache.Proofs.Fit
/-!
What a move of the system does to one path. Every move takes at most one mark from those that hold marks and gives at
most one back. As no path has two owners, all moves together drive each path through a course of its own, one deed
after the other.
-/
namespace UnitCache.Interleaving

variable {α κ : Type}

/-- The marks that are owned, by jobs that wait and by frames. -/
def System.stakes (system : System α κ) : List (Path × Phase) :=
  system.store.queue.jobs.map jobStake ++ system.frames.filterMap Frame.stake?

def System.numbers (system : System α κ) : List Nat := system.frames.map Frame.number

def System.phases (system : System α κ) (path : Path) : List Phase :=
  system.stakes.filterMap fun stake => onPath path (some stake)

def Moment.at? (path : Path) (moment : Moment α κ) : Option (Nat × Deed) :=
  onPath path (moment.note?.map fun note => (note.path, note.frame, note.deed))

theorem frames_set {threads : List (Thread α κ)} {index : Nat} {thread : Thread α κ}
    (found : threads[index]? = some thread) (later : Thread α κ) :
    ∃ others : List (Frame α κ), (threads.flatMap Thread.stack).Perm (thread.stack ++ others) ∧
      ((threads.set index later).flatMap Thread.stack).Perm (later.stack ++ others) := by
  obtain ⟨inside, rfl⟩ := List.getElem?_eq_some_iff.mp found
  refine ⟨(threads.eraseIdx index).flatMap Thread.stack, ?_, ?_⟩
  · exact (List.getElem_cons_eraseIdx_perm inside).symm.flatMap_right Thread.stack
  · exact (List.set_perm_cons_eraseIdx inside later).flatMap_right Thread.stack

inductive Thread.Acts (clock : Nat) (store : Store α κ) (thread : Thread α κ) :
    Choice α κ → Store α κ → Thread α κ → Prop where
  | calls (operation : Operation κ) (may : thread.mayCall = true) :
      Acts clock store thread (.call operation) store (thread.begin clock (.operation operation) operation.activity)
  | releases (handle : Handle) (large : thread.atLarge = true) (held : handle ∈ thread.guards) :
      Acts clock store thread (.release handle) (store.unlock handle.number)
        { thread with guards := thread.guards.erase handle }
  | takes (job : Job κ) (next : Store α κ) (own : thread.role ≠ .client) (idle : thread.stack = [])
      (taken : store.dequeue = some (job, next)) :
      Acts clock store thread .take next (thread.begin clock (.job job) (.ofJob job))
  | ticks (own : thread.role ≠ .client) (idle : thread.stack = []) :
      Acts clock store thread .tick store (thread.begin clock .tick .collect)
  | goesOn (choice : Choice α κ) (frame : Frame α κ) (rest : List (Frame α κ)) (turn : Turn α κ) (next : Store α κ)
      (left : Option (Frame α κ)) (stack : thread.stack = frame :: rest)
      (chosen : turn? thread.background store frame.activity choice = some turn)
      (made : frame.after? turn = some (next, left)) :
      Acts clock store thread choice next { thread with
        guards := if left.isNone then frame.kept.toList ++ thread.guards else thread.guards
        stack := left.toList ++ rest }

theorem acts_of_act? {clock : Nat} {store next : Store α κ} {thread later : Thread α κ} {choice : Choice α κ}
    (made : thread.act? clock store choice = some (next, later)) : thread.Acts clock store choice next later := by
  cases choice with
  | call operation =>
    simp only [Thread.act?, Option.ite_none_right_eq_some, Option.some.injEq, Prod.mk.injEq] at made
    obtain ⟨may, rfl, rfl⟩ := made
    exact .calls operation may
  | release handle =>
    simp only [Thread.act?, Option.ite_none_right_eq_some, Option.some.injEq, Prod.mk.injEq, Bool.and_eq_true,
      List.contains_iff_mem] at made
    obtain ⟨⟨large, held⟩, rfl, rfl⟩ := made
    exact .releases handle large held
  | take =>
    simp only [Thread.act?, Option.ite_none_right_eq_some, Option.map_eq_some_iff, Prod.mk.injEq, Bool.and_eq_true,
      List.isEmpty_iff, beq_iff_eq] at made
    obtain ⟨⟨role, idle⟩, ⟨job, behind⟩, taken, rfl, rfl⟩ := made
    exact .takes job behind (by simp [role]) idle taken
  | tick =>
    simp only [Thread.act?, Option.ite_none_right_eq_some, Option.some.injEq, Prod.mk.injEq, Bool.and_eq_true,
      List.isEmpty_iff, beq_iff_eq] at made
    obtain ⟨⟨role, idle⟩, rfl, rfl⟩ := made
    exact .ticks (by simp [role]) idle
  | _ =>
    simp only [Thread.act?] at made
    split at made
    next => cases made
    next frame rest stack =>
      simp only [Option.bind_eq_bind, Option.bind_eq_some_iff] at made
      obtain ⟨turn, chosen, ⟨behind, left⟩, went, same⟩ := made
      cases same
      exact .goesOn _ frame rest turn behind left stack chosen went

def Thread.goesOn (role : Role) (guards : List Handle) (frame : Frame α κ) (left : Option (Frame α κ))
    (rest : List (Frame α κ)) : Thread α κ where
  role
  guards := if left.isNone then frame.kept.toList ++ guards else guards
  stack := left.toList ++ rest

theorem act?_of_turn {store next : Store α κ} {frame : Frame α κ} {choice : Choice α κ} {turn : Turn α κ}
    {left : Option (Frame α κ)} {role : Role} {guards : List Handle} {rest : List (Frame α κ)}
    (chosen : turn? (role != .client) store frame.activity choice = some turn)
    (made : frame.after? turn = some (next, left)) (clock : Nat) :
    Thread.act? clock store { role, guards, stack := frame :: rest } choice =
      some (next, .goesOn role guards frame left rest) := by
  cases choice <;> first | (cases chosen; done) | simp [Thread.act?, Thread.background, chosen, made, Thread.goesOn]

structure Thread.Continues (store : Store α κ) (thread : Thread α κ) (choice : Choice α κ) (next : Store α κ)
    (later : Thread α κ) where
  frame : Frame α κ
  rest : List (Frame α κ)
  turn : Turn α κ
  left : Option (Frame α κ)
  stack : thread.stack = frame :: rest
  chosen : turn? thread.background store frame.activity choice = some turn
  made : frame.after? turn = some (next, left)
  behind : later.stack = left.toList ++ rest

theorem act?_cases {clock : Nat} {store next : Store α κ} {thread later : Thread α κ} {choice : Choice α κ}
    (made : thread.act? clock store choice = some (next, later)) :
    (∃ operation, choice = .call operation ∧ next = store ∧
      later = thread.begin clock (.operation operation) operation.activity) ∨
    (∃ handle, choice = .release handle ∧ next = store.unlock handle.number ∧ later.stack = thread.stack) ∨
    (∃ job, choice = .take ∧ store.dequeue = some (job, next) ∧ later = thread.begin clock (.job job) (.ofJob job)) ∨
    (choice = .tick ∧ next = store ∧ later = thread.begin clock .tick .collect) ∨
    Nonempty (thread.Continues store choice next later) := by
  cases acts_of_act? made with
  | calls operation => exact .inl ⟨operation, rfl, rfl, rfl⟩
  | releases handle => exact .inr (.inl ⟨handle, rfl, rfl, rfl⟩)
  | takes job _ _ _ taken => exact .inr (.inr (.inl ⟨job, rfl, taken, rfl⟩))
  | ticks => exact .inr (.inr (.inr (.inl ⟨rfl, rfl, rfl⟩)))
  | goesOn _ frame rest turn _ left stack chosen went =>
    exact .inr (.inr (.inr (.inr ⟨⟨frame, rest, turn, left, stack, chosen, went, rfl⟩⟩)))

theorem move?_cases {system next : System α κ} {move : Move α κ} (made : system.move? move = some next) :
    (∃ index choice thread later, move = .thread index choice ∧ system.threads[index]? = some thread ∧
      thread.act? system.clock system.store choice = some (next.store, later) ∧
      next.threads = system.threads.set index later ∧ next.stopping = system.stopping) ∨
    (move = .stop ∧ next.store = system.store ∧ next.threads = system.threads ∧ next.stopping = true) ∨
    (∃ job, move = .discard ∧ system.store.dequeue = some (job, next.store) ∧ next.threads = system.threads ∧
      system.stopping = true ∧ next.stopping = true) ∨
    (move = .close ∧ next.store = system.store.closeQueue ∧ next.threads = system.threads ∧
      next.stopping = system.stopping) := by
  cases move with
  | thread index choice =>
    simp only [System.move?, Option.bind_eq_bind, Option.bind_eq_some_iff] at made
    obtain ⟨thread, found, ⟨store, later⟩, acted, same⟩ := made
    cases same
    exact .inl ⟨index, choice, thread, later, rfl, found, acted, rfl, rfl⟩
  | stop =>
    cases made
    exact .inr (.inl ⟨rfl, rfl, rfl, rfl⟩)
  | discard =>
    simp only [System.move?, Option.ite_none_right_eq_some, Option.map_eq_some_iff] at made
    obtain ⟨stopping, ⟨job, store⟩, taken, same⟩ := made
    cases same
    exact .inr (.inr (.inl ⟨job, rfl, taken, rfl, stopping, stopping⟩))
  | close =>
    simp only [System.move?, Option.ite_none_right_eq_some, Option.some.injEq] at made
    obtain ⟨_, same⟩ := made
    cases same
    exact .inr (.inr (.inr ⟨rfl, rfl, rfl, rfl⟩))

theorem move?_clock {system next : System α κ} {move : Move α κ} (made : system.move? move = some next) :
    next.clock = system.clock + 1 := by
  cases move with
  | thread index choice =>
    simp only [System.move?, Option.bind_eq_bind, Option.bind_eq_some_iff] at made
    obtain ⟨_, _, _, _, same⟩ := made
    cases same
    rfl
  | stop => cases made; rfl
  | discard =>
    simp only [System.move?, Option.ite_none_right_eq_some, Option.map_eq_some_iff] at made
    obtain ⟨_, _, _, same⟩ := made
    cases same
    rfl
  | close =>
    simp only [System.move?, Option.ite_none_right_eq_some, Option.some.injEq] at made
    obtain ⟨_, same⟩ := made
    cases same
    rfl

theorem dequeue_eq {store next : Store α κ} {job : Job κ} (taken : store.dequeue = some (job, next)) :
    store.queue.jobs = job :: next.queue.jobs ∧
      next = { store with queue := { store.queue with jobs := next.queue.jobs } } := by
  unfold Store.dequeue at taken
  split at taken
  next => cases taken
  next first rest jobs =>
    simp only [Option.ite_none_right_eq_some, Option.some.injEq, Prod.mk.injEq] at taken
    obtain ⟨_, rfl, rfl⟩ := taken
    exact ⟨jobs, rfl⟩

theorem dequeue_cases {store next : Store α κ} {job : Job κ} (taken : store.dequeue = some (job, next)) :
    store.queue.jobs = job :: next.queue.jobs ∧ ∀ path, view next path = view store path := by
  obtain ⟨jobs, same⟩ := dequeue_eq taken
  refine ⟨jobs, fun path => ?_⟩
  rw [same]
  rfl

/-- All that a store holds and all that threads do keeps to its path. -/
structure Sound (system : System α κ) : Prop where
  keyed : Keyed system.store
  fits : ∀ frame ∈ system.frames, Fits frame.activity

/-- The marks that a move takes and gives, and what it does to the paths. -/
structure Exchange (system : System α κ) (move : Move α κ) (next : System α κ) where
  number : Nat
  deed : Option (Path × Deed)
  gone : Option (Path × Phase)
  come : Option (Path × Phase)
  others : List (Path × Phase)
  before : system.stakes.Perm (gone.toList ++ others)
  behind : next.stakes.Perm (come.toList ++ others)
  told : (⟨system, move⟩ : Moment α κ).note? = deed.map fun pair => ⟨number, pair.1, pair.2⟩
  works : Works number deed system.store gone next.store come

theorem stakes_perm {system : System α κ} {frames : List (Frame α κ)} (known : system.frames.Perm frames) :
    system.stakes.Perm (system.store.queue.jobs.map jobStake ++ frames.filterMap Frame.stake?) :=
  (known.filterMap _).append_left _

theorem stake?_activity (number : Nat) (task : Task κ) (operation : Operation κ) :
    (⟨number, task, operation.activity⟩ : Frame α κ).stake? = none := by
  cases operation <;> rfl

theorem stakes_append (jobs : List (Path × Phase)) (left : Option (Frame α κ)) (frames : List (Frame α κ)) :
    (jobs ++ (left.toList ++ frames).filterMap Frame.stake?).Perm
      ((left.bind Frame.stake?).toList ++ (jobs ++ frames.filterMap Frame.stake?)) := by
  have cut : left.toList.filterMap Frame.stake? = (left.bind Frame.stake?).toList := by
    cases left with
    | none => rfl
    | some frame => cases stake : frame.stake? <;> simp [stake]
  rw [List.filterMap_append, cut]
  exact List.perm_append_comm_assoc _ _ _

theorem note?_continues {system : System α κ} {index : Nat} {choice : Choice α κ} {thread : Thread α κ}
    {frame : Frame α κ} {rest : List (Frame α κ)} (found : system.threads[index]? = some thread)
    (stack : thread.stack = frame :: rest) (goes : choice ≠ .take) :
    (⟨system, .thread index choice⟩ : Moment α κ).note? =
      (frame.deed? thread.background system.store choice).map fun pair => ⟨frame.number, pair.1, pair.2⟩ := by
  simp only [Moment.note?, found, stack, Option.bind_eq_bind, Option.bind_some]
  cases choice with
  | take => exact absurd rfl goes
  | _ => cases frame.deed? thread.background system.store _ <;> rfl

/-- Only taking a job and going on with what was begun does something to a path. -/
theorem note?_idle {system : System α κ} {index : Nat} {choice : Choice α κ} {thread : Thread α κ}
    (found : system.threads[index]? = some thread) (goes : choice ≠ .take)
    (idle : ∀ frame : Frame α κ, frame.deed? thread.background system.store choice = none) :
    (⟨system, .thread index choice⟩ : Moment α κ).note? = none := by
  cases stack : thread.stack with
  | nil => simp only [Moment.note?, found, stack, Option.bind_eq_bind, Option.bind_some]
  | cons frame rest =>
    rw [note?_continues found stack goes, idle frame]
    rfl

section Moves

variable {system next : System α κ} {index : Nat} {choice : Choice α κ} {thread later : Thread α κ}

theorem exchange_idle (found : system.threads[index]? = some thread)
    (threads : next.threads = system.threads.set index later) (queue : next.store.queue = system.store.queue)
    (same : ∀ path, view next.store path = view system.store path)
    (stack : later.stack.filterMap Frame.stake? = thread.stack.filterMap Frame.stake?)
    (told : (⟨system, .thread index choice⟩ : Moment α κ).note? = none) :
    Nonempty (Exchange system (.thread index choice) next) := by
  obtain ⟨others, before, behind⟩ := frames_set found later
  refine ⟨⟨0, none, none, none, system.stakes, .rfl, ?_, told, Works.idle none same⟩⟩
  have was : system.stakes.Perm _ := stakes_perm before
  have is : next.stakes.Perm _ := stakes_perm (by simpa only [System.frames, threads] using behind)
  rw [List.filterMap_append, stack, queue] at is
  rw [List.filterMap_append] at was
  exact is.trans was.symm

theorem exchange_take {job : Job κ} (found : system.threads[index]? = some thread)
    (threads : next.threads = system.threads.set index (thread.begin system.clock (.job job) (.ofJob job)))
    (taken : system.store.dequeue = some (job, next.store)) :
    Nonempty (Exchange system (.thread index .take) next) := by
  obtain ⟨jobs, same⟩ := dequeue_cases taken
  obtain ⟨others, before, behind⟩ := frames_set found (thread.begin system.clock (.job job) (.ofJob job))
  have was : system.stakes.Perm _ := stakes_perm before
  have is : next.stakes.Perm _ := stakes_perm (by simpa only [System.frames, threads] using behind)
  rw [jobs, List.map_cons, List.cons_append] at was
  have own := is.trans (stakes_append _ (some _) _)
  cases kind : job.kind with
  | parse =>
    have gone : jobStake job = (job.request.path, .wanted job.request none) := by simp [jobStake, kind]
    have come : (⟨system.clock, .job job, .ofJob job⟩ : Frame α κ).stake? =
        some (job.request.path, .wanted job.request (some system.clock)) := by
      simp [Activity.ofJob, kind, Frame.stake?, Owner.path?]
    refine ⟨⟨system.clock, some (job.request.path, .taken job.request), some (jobStake job), _, _, was, own, ?_, ?_⟩⟩
    · simp [Moment.note?, found, taken, kind]
    · have effect : Effect system.clock job.request.path (some (.taken job.request)) (view system.store job.request.path)
          (some (.wanted job.request none)) (view next.store job.request.path)
          (some (.wanted job.request (some system.clock))) := by
        rw [same]
        exact .taken _ job.request
      rw [gone, Option.bind_some, come]
      exact Works.of_effect job.request.path effect (fun other _ => same other)
  | reparse =>
    have stake : (⟨system.clock, .job job, .ofJob job⟩ : Frame α κ).stake? = some (jobStake job) := by
      simp [Activity.ofJob, kind, Frame.stake?, Owner.path?, jobStake]
    refine ⟨⟨system.clock, none, some (jobStake job), _, _, was, own, ?_, ?_⟩⟩
    · simp [Moment.note?, found, taken, kind]
    · rw [Option.bind_some, stake]
      exact Works.idle _ same

theorem queues {background : Bool} {store after : Store α κ} {frame : Frame α κ} {left : Option (Frame α κ)}
    {turn : Turn α κ} {job : Job κ} {giving : Giving} (activity : frame.activity = .enqueue job giving)
    (accepted : (store.enqueue background job).1 = .accepted)
    (chosen : turn? background store frame.activity choice = some turn)
    (made : frame.after? turn = some (after, left)) :
    after.queue = { store.queue with jobs := store.queue.jobs ++ [job] } ∧
      (∀ path, view after path = view store path) ∧ left.bind Frame.stake? = none ∧
      frame.deed? background store choice = none := by
  rw [activity] at chosen
  cases choice with
  | proceed =>
    cases chosen
    rcases enqueue_cases store background job with queued | queued | queued | queued
    · simp only [Activity.step, queued] at made
      obtain ⟨rfl, leaves⟩ := after?_give giving true made
      exact ⟨rfl, fun _ => rfl, leaves, by simp [Frame.deed?, activity, deedOf, queued]⟩
    all_goals simp [queued] at accepted
  | _ => cases chosen

theorem queue_of_turn {background : Bool} {store after : Store α κ} {frame : Frame α κ} {left : Option (Frame α κ)}
    {turn : Turn α κ} (keyed : Keyed store) (fits : Fits frame.activity)
    (chosen : turn? background store frame.activity choice = some turn)
    (made : frame.after? turn = some (after, left)) :
    after.queue = store.queue ∨ ∃ job giving, frame.activity = .enqueue job giving ∧
      (store.enqueue background job).1 = .accepted ∧
      after.queue = { store.queue with jobs := store.queue.jobs ++ [job] } := by
  by_cases queued : ∃ job giving, frame.activity = .enqueue job giving ∧ (store.enqueue background job).1 = .accepted
  · obtain ⟨job, giving, activity, accepted⟩ := queued
    exact .inr ⟨job, giving, activity, accepted, (queues activity accepted chosen made).1⟩
  · exact .inl (goes_of_turn keyed fits chosen made
      fun job giving activity accepted => queued ⟨job, giving, activity, accepted⟩).1

theorem exchange_continues (sound : Sound system) (found : system.threads[index]? = some thread)
    (threads : next.threads = system.threads.set index later)
    (goes : thread.Continues system.store choice next.store later) :
    Nonempty (Exchange system (.thread index choice) next) := by
  obtain ⟨frame, rest, turn, left, stack, chosen, made, behind⟩ := goes
  obtain ⟨others, before, after⟩ := frames_set found later
  rw [stack, List.cons_append] at before
  rw [behind, List.append_assoc] at after
  have was : system.stakes.Perm _ := (stakes_perm before).trans (stakes_append _ (some frame) _)
  have is : next.stakes.Perm _ :=
    (stakes_perm (by simpa only [System.frames, threads] using after)).trans (stakes_append _ left _)
  have told : (⟨system, .thread index choice⟩ : Moment α κ).note? = _ :=
    note?_continues found stack (by rintro rfl; cases chosen)
  have fits : Fits frame.activity := sound.fits frame (before.mem_iff.mpr (List.mem_cons_self ..))
  -- The mark goes over to the queue only with a job that is accepted.
  by_cases queued : ∃ job giving, frame.activity = .enqueue job giving ∧
      (system.store.enqueue thread.background job).1 = .accepted
  · obtain ⟨job, giving, activity, accepted⟩ := queued
    obtain ⟨jobs, same, leaves, nothing⟩ := queues activity accepted chosen made
    have stake : frame.stake? = some (jobStake job) := by simp [Frame.stake?, activity]
    rw [Option.bind_some, stake] at was
    rw [leaves, jobs, List.map_append] at is
    refine ⟨⟨0, none, some (jobStake job), some (jobStake job), _, was, ?_, by rw [told, nothing]; rfl,
      Works.idle _ same⟩⟩
    refine is.trans ?_
    simp only [Option.toList_none, List.nil_append, List.map_cons, List.map_nil, List.append_assoc, Option.toList_some]
    exact List.perm_append_comm_assoc _ _ _
  · have goes := goes_of_turn (sound.keyed) fits chosen made
      (fun job giving activity accepted => queued ⟨job, giving, activity, accepted⟩)
    obtain ⟨queue, works⟩ := goes
    rw [queue] at is
    exact ⟨⟨frame.number, frame.deed? thread.background system.store choice, frame.stake?, left.bind Frame.stake?, _,
      was, is, told, works⟩⟩

/-- Every move but the throwing away of a job trades at most one mark. -/
theorem exchange_of_move {move : Move α κ} (sound : Sound system) (made : system.move? move = some next)
    (kept : move ≠ .discard) : Nonempty (Exchange system move next) := by
  rcases move?_cases made with ⟨index, choice, thread, later, rfl, found, acted, threads, _⟩ |
    ⟨rfl, store, threads, _⟩ | ⟨job, rfl, _⟩ | ⟨rfl, store, threads, _⟩
  · rcases act?_cases acted with ⟨operation, rfl, store, rfl⟩ | ⟨handle, rfl, store, stack⟩ | ⟨job, rfl, taken, rfl⟩ |
      ⟨rfl, store, rfl⟩ | goes
    · refine exchange_idle found threads (by rw [store]) (fun path => by rw [store]) ?_
        (note?_idle found (by simp) fun _ => rfl)
      simp [Thread.begin, stake?_activity]
    · exact exchange_idle found threads (by rw [store]; rfl) (fun path => by rw [store]; rfl) (by rw [stack])
        (note?_idle found (by simp) fun _ => rfl)
    · exact exchange_take found threads taken
    · exact exchange_idle found threads (by rw [store]) (fun path => by rw [store]) rfl
        (note?_idle found (by simp) fun _ => rfl)
    · exact goes.elim (exchange_continues sound found threads)
  · refine ⟨⟨0, none, none, none, system.stakes, .rfl, ?_, rfl, Works.idle none (fun path => by rw [store])⟩⟩
    simp [System.stakes, System.frames, store, threads]
  · exact absurd rfl kept
  · refine ⟨⟨0, none, none, none, system.stakes, .rfl, ?_, rfl, Works.idle none (fun path => by rw [store]; rfl)⟩⟩
    simp [System.stakes, System.frames, store, threads, Store.closeQueue]

/-- What holds of all that is begun, and is kept by going on, holds of all frames. -/
theorem frames_of_move {move : Move α κ} {keeps : Frame α κ → Prop} (made : system.move? move = some next)
    (calls : ∀ index operation number, move = .thread index (.call operation) →
      keeps ⟨number, .operation operation, operation.activity⟩)
    (takes : ∀ job number, keeps ⟨number, .job job, .ofJob job⟩) (ticks : ∀ number, keeps ⟨number, .tick, .collect⟩)
    (goes_on : ∀ {background choice frame turn store left}, keeps frame →
      turn? background system.store frame.activity choice = some turn → frame.after? turn = some (store, some left) →
      keeps left)
    (all : ∀ frame ∈ system.frames, keeps frame) : ∀ frame ∈ next.frames, keeps frame := by
  rcases move?_cases made with ⟨index, choice, thread, later, rfl, found, acted, threads, _⟩ |
    ⟨rfl, _, threads, _⟩ | ⟨_, rfl, _, threads, _⟩ | ⟨rfl, _, threads, _⟩
  · obtain ⟨others, before, behind⟩ := frames_set found later
    have others_keep : ∀ frame ∈ others, keeps frame := fun frame inside =>
      all frame (before.symm.subset (List.mem_append_right _ inside))
    have own_keep : ∀ frame ∈ thread.stack, keeps frame := fun frame inside =>
      all frame (before.symm.subset (List.mem_append_left _ inside))
    have later_keep : ∀ frame ∈ later.stack, keeps frame := by
      rcases act?_cases acted with ⟨operation, rfl, _, rfl⟩ | ⟨_, _, _, stack⟩ | ⟨job, _, _, rfl⟩ | ⟨_, _, rfl⟩ | goes
      · exact List.forall_mem_cons.mpr ⟨calls index operation _ rfl, own_keep⟩
      · rwa [stack]
      · exact List.forall_mem_cons.mpr ⟨takes job _, own_keep⟩
      · exact List.forall_mem_cons.mpr ⟨ticks _, own_keep⟩
      · obtain ⟨frame, rest, turn, left, stack, chosen, went, kept⟩ := goes
        rw [stack] at own_keep
        obtain ⟨first, others⟩ := List.forall_mem_cons.mp own_keep
        rw [kept]
        cases left with
        | none => exact others
        | some left => exact List.forall_mem_cons.mpr ⟨goes_on first chosen went, others⟩
    intro frame inside
    rw [System.frames, threads] at inside
    rcases List.mem_append.mp (behind.subset inside) with inside | inside
    · exact later_keep frame inside
    · exact others_keep frame inside
  all_goals
    intro frame inside
    rw [System.frames, threads] at inside
    exact all frame inside

theorem after?_same {frame last : Frame α κ} {turn : Turn α κ} {store : Store α κ}
    (made : frame.after? turn = some (store, some last)) : last.number = frame.number ∧ last.task = frame.task := by
  cases turn <;> cases made
  exact ⟨rfl, rfl⟩

theorem numbers_of_move (made : system.move? move = some next) :
    next.numbers.Perm system.numbers ∨ next.numbers.Perm (system.clock :: system.numbers) ∨
      ∃ number, system.numbers.Perm (number :: next.numbers) := by
  rcases move?_cases made with ⟨index, choice, thread, later, rfl, found, acted, threads, _⟩ |
    ⟨rfl, _, threads, _⟩ | ⟨_, rfl, _, threads, _⟩ | ⟨rfl, _, threads, _⟩
  · obtain ⟨others, before, behind⟩ := frames_set found later
    have was : system.numbers.Perm (thread.stack.map Frame.number ++ others.map Frame.number) := by
      rw [← List.map_append]
      exact before.map _
    have is : next.numbers.Perm (later.stack.map Frame.number ++ others.map Frame.number) := by
      rw [System.numbers, System.frames, threads, ← List.map_append]
      exact behind.map _
    rcases act?_cases acted with ⟨operation, rfl, _, rfl⟩ | ⟨_, _, _, stack⟩ | ⟨job, _, _, rfl⟩ | ⟨_, _, rfl⟩ | goes
    · exact .inr (.inl (is.trans (was.symm.cons _)))
    · rw [stack] at is
      exact .inl (is.trans was.symm)
    · exact .inr (.inl (is.trans (was.symm.cons _)))
    · exact .inr (.inl (is.trans (was.symm.cons _)))
    · obtain ⟨frame, rest, turn, left, stack, _, went, kept⟩ := goes
      rw [stack] at was
      rw [kept] at is
      cases left with
      | none => exact .inr (.inr ⟨frame.number, was.trans (is.symm.cons _)⟩)
      | some last =>
        rw [Option.toList_some, List.singleton_append, List.map_cons, (after?_same went).1] at is
        exact .inl (is.trans was.symm)
  all_goals
    rw [System.numbers, System.frames, threads]
    exact .inl .rfl

/-- A job that is thrown away leaves its mark without an owner. -/
theorem discard_stakes (made : system.move? .discard = some next) :
    ∃ job : Job κ, system.stakes.Perm (jobStake job :: next.stakes) ∧
      (∀ path, view next.store path = view system.store path) ∧
      (⟨system, .discard⟩ : Moment α κ).note? = some ⟨system.clock, job.request.path, .discarded⟩ := by
  rcases move?_cases made with ⟨_, _, _, _, made, _⟩ | ⟨made, _⟩ | ⟨job, _, taken, threads, _⟩ | ⟨made, _⟩
  · cases made
  · cases made
  · obtain ⟨jobs, same⟩ := dequeue_cases taken
    refine ⟨job, ?_, same, by simp [Moment.note?, taken]⟩
    simp [System.stakes, System.frames, threads, jobs]
  · cases made

end Moves

end UnitCache.Interleaving
