import UnitCache.Configuration
import UnitCache.Proofs.Cells
import UnitCache.Proofs.WorkItems
/-!
Why the cache does not get stuck. A thread waits only for room in the queue or for a unit that is in use: what is done
under the lock of the store is a single move that waits for nothing, so between two moves that lock is free. Who keeps a
unit in use is in the engine or not in the cache at all, so it goes on; and the workers, who make room in the queue, do
not wait for it themselves.
-/
namespace UnitCache.Interleaving

variable {α κ : Type}

def Frame.inCallback (frame : Frame α κ) : Bool :=
  match frame.activity with
  | .calling _ => true
  | _ => false

/-- Whether callers behave. The engine does not call the cache; nobody who keeps a unit in use calls it; and a callback
that is over keeps none. -/
def Moment.behaved (moment : Moment α κ) : Bool :=
  match moment.move with
  | .thread index (.call _) =>
    moment.system.threads[index]?.all fun thread => thread.guards.isEmpty && thread.stack.head?.all Frame.inCallback
  | .thread index (.returned _) => moment.system.threads[index]?.all fun thread => thread.guards.isEmpty
  | _ => true

/-- How a thread of a system can go on with what it has begun, without waiting: with its next activity, however the
engine answers it, or when its callback is over; or it gives up a unit, or takes the next job. -/
inductive CanGoOn (system : System α κ) (index : Nat) (thread : Thread α κ) : Prop where
  | works (made : (system.move? (.thread index .proceed)).isSome = true)
  | parses (made : ∀ answer, (system.move? (.thread index (.parsed answer))).isSome = true)
  | reparses (made : ∀ answer, (system.move? (.thread index (.reparsed answer))).isSome = true)
  | completes (made : ∀ answer noted, (system.move? (.thread index (.completed answer noted))).isSome = true)
  | returns (free : thread.guards = [])
      (made : ∀ failed, (system.move? (.thread index (.returned failed))).isSome = true)
  | releases (handle : Handle) (made : (system.move? (.thread index (.release handle))).isSome = true)
  | takes (made : (system.move? (.thread index .take)).isSome = true)

/-- A thread of which only the frame on top is in the cache or in the engine, and none while it keeps a unit in use.
What a thread of the cache begins by itself keeps none. -/
structure Thread.Steady (thread : Thread α κ) : Prop where
  below : ∀ frame ∈ thread.stack.tail, frame.inCallback = true
  holding : thread.guards ≠ [] → ∀ frame ∈ thread.stack, frame.inCallback = true
  idle : thread.role ≠ .client → thread.stack = [] → thread.guards = []
  bottom : thread.role ≠ .client → ∀ frame ∈ thread.stack.getLast?, frame.kept = none

def Frame.Uses (frame : Frame α κ) (number : Nat) : Prop :=
  ∃ handle use, frame.activity = .using handle use ∧ use ≠ .hold ∧ handle.number = number

def Thread.Holds (thread : Thread α κ) (number : Nat) : Prop :=
  (∃ handle ∈ thread.guards, handle.number = number) ∨ ∃ frame ∈ thread.stack, frame.Uses number

section Threads

variable {background : Bool} {clock : Nat} {store next : Store α κ} {thread later : Thread α κ} {choice : Choice α κ}
  {frame : Frame α κ} {turn : Turn α κ} {left : Option (Frame α κ)}

theorem kept_of_turn {last : Frame α κ} (chosen : turn? background store frame.activity choice = some turn)
    (made : frame.after? turn = some (next, some last)) : last.kept = none := by
  cases turn <;> cases made
  case next behind warnings =>
  have follows : Follows store frame.activity behind := follows_of_turn chosen
  generalize frame.activity = before at follows
  unfold Frame.kept
  split
  next number task handle same =>
    cases same
    cases follows
  next => rfl

theorem over_of_inCallback (inside : frame.inCallback = true)
    (chosen : turn? background store frame.activity choice = some turn)
    (made : frame.after? turn = some (next, left)) : left = none ∧ ∃ failed, choice = .returned failed := by
  obtain ⟨number, task, activity⟩ := frame
  cases activity <;> try cases inside
  case calling callback =>
  have rule : Rule background store (.calling callback) choice turn := rule_of_turn chosen
  cases rule with
  | call => cases made
  | returned _ failed =>
    cases made
    exact ⟨rfl, failed, rfl⟩

theorem Thread.Steady.begin (steady : thread.Steady) (free : thread.guards = [])
    (callbacks : ∀ frame ∈ thread.stack, frame.inCallback = true) {task : Task κ} {activity : Activity α κ}
    (first : thread.role ≠ .client → thread.stack = [] → (⟨clock, task, activity⟩ : Frame α κ).kept = none) :
    (thread.begin clock task activity).Steady where
  below := callbacks
  holding keeps := absurd free keeps
  idle _ nothing := by cases nothing
  bottom role := by
    have own : thread.role ≠ .client := role
    cases stack : thread.stack with
    | nil =>
      rw [Thread.begin, stack]
      rintro _ ⟨⟩
      exact first own stack
    | cons frame rest =>
      rw [Thread.begin, stack, List.getLast?_cons_cons, ← stack]
      exact steady.bottom own

/-- Going on ends a callback, or leaves those below the frame on top as they are. -/
theorem Thread.Steady.goesOn {rest : List (Frame α κ)} (steady : thread.Steady) (stack : thread.stack = frame :: rest)
    (chosen : turn? background store frame.activity choice = some turn)
    (made : frame.after? turn = some (next, left))
    (ended : ∀ failed, choice = .returned failed → thread.guards = []) :
    Thread.Steady { thread with
      guards := if left.isNone then frame.kept.toList ++ thread.guards else thread.guards
      stack := left.toList ++ rest } := by
  obtain ⟨below, holding, idle, bottom⟩ := steady
  rw [stack] at below holding bottom
  -- A thread that keeps a unit in use can only come back from a callback.
  have back (keeps : thread.guards ≠ []) : left = none ∧ ∃ failed, choice = .returned failed :=
    over_of_inCallback (holding keeps frame List.mem_cons_self) chosen made
  cases left with
  | none =>
    refine ⟨fun other inside => below other (List.mem_of_mem_tail inside), fun _ => below, ?_, ?_⟩
    · intro role nothing
      cases nothing
      have kept : frame.kept = none := bottom role frame rfl
      by_contra keeps
      simp only [Option.isNone_none, if_true, kept, Option.toList_none, List.nil_append] at keeps
      obtain ⟨_, failed, returned⟩ := back keeps
      exact keeps (ended failed returned)
    · intro role
      cases rest with
      | nil => rintro _ ⟨⟩
      | cons other others => exact bottom role
  | some last =>
    refine ⟨below, fun keeps => ?_, fun _ nothing => (by cases nothing), ?_⟩
    · cases (back keeps).1
    · intro role
      cases rest with
      | nil =>
        rintro _ ⟨⟩
        exact kept_of_turn chosen made
      | cons other others => exact bottom role

/-- Whatever a thread does leaves it steady, if its callers behave. -/
theorem Thread.Steady.step (steady : thread.Steady) (acts : thread.Acts clock store choice next later)
    (calls : ∀ operation, choice = .call operation →
      thread.guards = [] ∧ ∀ frame ∈ thread.stack.head?, frame.inCallback = true)
    (ended : ∀ failed, choice = .returned failed → thread.guards = []) : later.Steady := by
  cases acts with
  | calls operation may =>
    obtain ⟨free, inside⟩ := calls operation rfl
    refine steady.begin free ?_ fun own nothing => ?_
    · have below := steady.below
      cases stack : thread.stack with
      | nil => simp
      | cons frame rest =>
        rw [stack] at below inside
        exact List.forall_mem_cons.mpr ⟨inside frame rfl, below⟩
    · simp [Thread.mayCall, nothing, own] at may
  | takes job next own empty =>
    refine steady.begin (steady.idle own empty) (by simp [empty]) fun _ _ => ?_
    cases kind : job.kind <;> simp [Activity.ofJob, kind, Frame.kept]
  | ticks own empty => exact steady.begin (steady.idle own empty) (by simp [empty]) fun _ _ => rfl
  | releases handle large held =>
    refine ⟨steady.below, fun keeps => steady.holding fun nothing => ?_, fun role nothing => ?_, steady.bottom⟩
    · rw [nothing] at held
      cases held
    · rw [steady.idle role nothing] at held
      cases held
  | goesOn _ frame rest turn _ left stack chosen made => exact steady.goesOn stack chosen made ended

theorem Thread.Holds.begin {number : Nat} (holds : thread.Holds number) (task : Task κ) (activity : Activity α κ) :
    (thread.begin clock task activity).Holds number := by
  rcases holds with guard | ⟨frame, inside, uses⟩
  · exact .inl guard
  · exact .inr ⟨frame, List.mem_cons_of_mem _ inside, uses⟩

/-- A unit is in use behind what a thread does only if the thread has taken it, or if it was in use before; then the
thread has not given it free. -/
theorem Thread.Acts.holds (acts : thread.Acts clock store choice next later) {number : Nat}
    (locked : next.isLocked number = true) :
    later.Holds number ∨ store.isLocked number = true ∧ (thread.Holds number → later.Holds number) := by
  cases acts with
  | calls operation => exact .inr ⟨locked, fun holds => holds.begin _ _⟩
  | ticks => exact .inr ⟨locked, fun holds => holds.begin _ _⟩
  | takes job _ _ _ taken =>
    rw [(dequeue_eq taken).2] at locked
    exact .inr ⟨locked, fun holds => holds.begin _ _⟩
  | releases handle _ held =>
    obtain ⟨before, apart⟩ := isLocked_unlock store _ _ locked
    refine .inr ⟨before, fun holds => holds.imp_left fun ⟨other, inside, same⟩ => ⟨other, ?_, same⟩⟩
    refine (List.mem_erase_of_ne ?_).mpr inside
    rintro rfl
    exact apart same.symm
  | goesOn _ frame rest turn _ left stack chosen made =>
    rcases (change_of_turn chosen made).isLocked locked with ⟨before, apart⟩ | ⟨handle, use, activity, same⟩
    · refine .inr ⟨before, ?_⟩
      rintro (⟨handle, inside, same⟩ | ⟨other, inside, handle, use, activity, used, same⟩)
      · refine .inl ⟨handle, ?_, same⟩
        show handle ∈ if left.isNone then _ else _
        split
        next => exact List.mem_append_right _ inside
        next => exact inside
      · rw [stack] at inside
        rcases List.mem_cons.mp inside with rfl | deeper
        · exact absurd same (apart handle use activity used)
        · exact .inr ⟨other, List.mem_append_right _ deeper, handle, use, activity, used, same⟩
    · left
      obtain ⟨own, task, _⟩ := frame
      cases activity
      have rule : Rule thread.background store (.acquire handle use) choice turn := rule_of_turn chosen
      cases rule with
      | awaitUnit => cases made
      | hold =>
        cases made
        exact .inl ⟨handle, List.mem_append_left _ (List.mem_singleton.mpr rfl), same⟩
      | acquire _ _ _ other =>
        cases made
        exact .inr ⟨_, List.mem_append_left _ (List.mem_singleton.mpr rfl), handle, use, rfl, other, same⟩

theorem Thread.Acts.not_of_waits {rest : List (Frame α κ)} (acts : thread.Acts clock store choice next later)
    (stack : thread.stack = frame :: rest) (waits : Waits thread.background store frame.activity) : False := by
  have within : thread.atLarge = false := by
    rw [Thread.atLarge, stack]
    exact waits.inside
  cases acts with
  | calls operation may => simp [Thread.mayCall, within] at may
  | releases handle large =>
    rw [within] at large
    cases large
  | takes _ _ _ idle | ticks _ idle =>
    rw [idle] at stack
    cases stack
  | goesOn _ top others turn _ left own chosen made =>
    cases own.symm.trans stack
    cases waits.turn chosen
    cases made

theorem Thread.Acts.role (acts : thread.Acts clock store choice next later) : later.role = thread.role := by
  cases acts <;> rfl

end Threads

/-- A system of steady threads, where each unit in use is so for one of them. -/
structure System.Steady (system : System α κ) : Prop where
  threads : ∀ thread ∈ system.threads, thread.Steady
  held : ∀ number, system.store.isLocked number = true → ∃ thread ∈ system.threads, thread.Holds number

section Moves

variable {system next : System α κ} {move : Move α κ}

theorem System.Steady.step {index : Nat} {choice : Choice α κ} {thread later : Thread α κ} (steady : system.Steady)
    (found : system.threads[index]? = some thread)
    (acts : thread.Acts system.clock system.store choice next.store later)
    (threads : next.threads = system.threads.set index later)
    (behaved : Moment.behaved ⟨system, .thread index choice⟩ = true) : next.Steady := by
  have inside : thread ∈ system.threads := List.mem_of_getElem? found
  have there : later ∈ next.threads := by
    rw [threads]
    exact List.mem_set (List.getElem?_eq_some_iff.mp found).1 later
  refine ⟨fun other present => ?_, fun number locked => ?_⟩
  · rw [threads] at present
    rcases List.mem_or_eq_of_mem_set present with before | rfl
    · exact steady.threads other before
    · refine (steady.threads thread inside).step acts ?_ ?_
      · rintro operation rfl
        simpa [Moment.behaved, found, Option.all_eq_true] using behaved
      · rintro failed rfl
        simpa [Moment.behaved, found] using behaved
  · rcases acts.holds locked with holds | ⟨before, keeps⟩
    · exact ⟨later, there, holds⟩
    · obtain ⟨holder, present, holds⟩ := steady.held number before
      obtain ⟨place, here⟩ := List.mem_iff_getElem?.mp present
      by_cases own : index = place
      · subst own
        cases found.symm.trans here
        exact ⟨later, there, keeps holds⟩
      · refine ⟨holder, List.mem_of_getElem? (i := place) ?_, holds⟩
        rw [threads, List.getElem?_set_ne own]
        exact here

theorem steady_of_move (steady : system.Steady) (made : system.move? move = some next)
    (behaved : Moment.behaved ⟨system, move⟩ = true) : next.Steady := by
  have stays (cells : next.store.cells = system.store.cells) (threads : next.threads = system.threads) :
      next.Steady := by
    obtain ⟨all, held⟩ := steady
    refine ⟨by rwa [threads], fun number locked => ?_⟩
    rw [threads]
    rw [Store.isLocked, cells] at locked
    exact held number locked
  rcases move?_cases made with ⟨index, choice, thread, later, rfl, found, acted, threads, _⟩ |
    ⟨_, store, threads, _⟩ | ⟨_, _, taken, threads, _⟩ | ⟨_, store, threads, _⟩
  · exact steady.step found (acts_of_act? acted) threads behaved
  · exact stays (by rw [store]) threads
  · exact stays (by rw [(dequeue_eq taken).2]) threads
  · exact stays (by rw [store]; rfl) threads

end Moves

section Runs

variable {flags : ParseFlags} {capacity : Nat} {roles : List Role} {history : List (Moment α κ)} {system : System α κ}

theorem Run.same_roles (run : Run flags capacity roles history system) : system.threads.map Thread.role = roles := by
  induction run with
  | start => simp [System.start, Function.comp_def]
  | move run made ih =>
    rcases move?_cases made with ⟨index, choice, thread, later, rfl, found, acted, threads, _⟩ |
      ⟨_, _, threads, _⟩ | ⟨_, _, _, threads, _⟩ | ⟨_, _, threads, _⟩
    · obtain ⟨inside, rfl⟩ := List.getElem?_eq_some_iff.mp found
      rw [threads, List.map_set, (acts_of_act? acted).role, ← List.map_set, List.set_getElem_self]
      exact ih
    all_goals rwa [threads]

theorem Run.steady (run : Run flags capacity roles history system)
    (behaved : ∀ moment ∈ history, moment.behaved = true) : system.Steady := by
  induction run with
  | start =>
    refine ⟨fun thread inside => ?_, fun number locked => ?_⟩
    · obtain ⟨role, _, rfl⟩ := List.mem_map.mp inside
      exact ⟨by simp, by simp, by simp, by simp⟩
    · simp [System.start, Store.empty, Store.isLocked] at locked
  | move run made ih =>
    exact steady_of_move (ih fun moment inside => behaved moment (List.mem_append_left _ inside)) made
      (behaved _ (List.mem_append_right _ (List.mem_singleton.mpr rfl)))

end Runs

section Waiting

variable {system : System α κ} {index : Nat} {thread : Thread α κ} {frame : Frame α κ} {rest : List (Frame α κ)}

theorem releases_of_large {handle : Handle} (found : system.threads[index]? = some thread)
    (large : thread.atLarge = true) (held : handle ∈ thread.guards) : CanGoOn system index thread := by
  refine .releases handle ?_
  simp [System.move?, found, Thread.act?, large, held]

theorem goesOn_or_waits (found : system.threads[index]? = some thread) (stack : thread.stack = frame :: rest) :
    CanGoOn system index thread ∨ Waits thread.background system.store frame.activity := by
  have made {choice : Choice α κ} {turn : Turn α κ}
      (chosen : turn? thread.background system.store frame.activity choice = some turn) (goes : moves turn = true) :
      (system.move? (.thread index choice)).isSome = true := by
    obtain ⟨next, left, went⟩ := after?_of_moves goes frame
    rw [move?_of_turn found stack chosen went]
    rfl
  have answered {choice : Choice α κ} {turn : Turn α κ}
      (chosen : turn? thread.background system.store frame.activity choice = some turn) (outside : choice ≠ .proceed) :
      (system.move? (.thread index choice)).isSome = true :=
    made chosen ((moves_of_turn chosen).resolve_left outside)
  cases turned : frame.activity.step thread.background system.store with
  | next | done => exact .inl (.works (made (congrArg some turned) rfl))
  | engine call =>
    have asked := asks_of_step turned
    cases call with
    | parse => exact .inl (.parses fun answer => answered (asked.parsed answer) nofun)
    | reparse => exact .inl (.reparses fun answer => answered (asked.reparsed answer) nofun)
    | complete => exact .inl (.completes fun answer noted => answered (asked.completed answer noted) nofun)
  | callback callback =>
    have activity := calling_of_step turned
    by_cases free : thread.guards = []
    · refine .inl (.returns free fun failed => ?_)
      have ended : turn? thread.background system.store frame.activity (.returned failed) =
          some (Activity.afterCallback system.store failed) := by
        rw [activity]
        rfl
      exact answered ended nofun
    · obtain ⟨handle, held⟩ := List.exists_mem_of_ne_nil _ free
      refine .inl (releases_of_large found ?_ held)
      rw [Thread.atLarge, stack]
      simp only [activity]
      rfl
  | waits => exact .inr (waits_of_step turned)

theorem move?_of_waits (found : system.threads[index]? = some thread) (stack : thread.stack = frame :: rest)
    (waits : Waits thread.background system.store frame.activity) (choice : Choice α κ) :
    system.move? (.thread index choice) = none := by
  rw [Option.eq_none_iff_forall_ne_some]
  intro next made
  rcases move?_cases made with ⟨_, _, _, later, same, here, acted, _⟩ | ⟨same, _⟩ | ⟨_, same, _⟩ | ⟨same, _⟩
  · cases same
    cases found.symm.trans here
    exact (acts_of_act? acted).not_of_waits stack waits
  all_goals cases same

theorem not_goesOn_of_waits (found : system.threads[index]? = some thread) (stack : thread.stack = frame :: rest)
    (waits : Waits thread.background system.store frame.activity) : ¬CanGoOn system index thread := by
  have none_made := move?_of_waits found stack waits
  intro goes
  cases goes with
  | works made | takes made | releases _ made => simp [none_made] at made
  | parses made => simp [none_made] at made
  | reparses made => simp [none_made] at made
  | completes made => simp [none_made] at made
  | returns _ made => simp [none_made] at made

theorem holder_goesOn {number : Nat} (found : system.threads[index]? = some thread) (steady : thread.Steady)
    (holds : thread.Holds number) : CanGoOn system index thread := by
  rcases holds with ⟨handle, held, _⟩ | ⟨frame, inside, handle, use, activity, _⟩
  · refine releases_of_large found ?_ held
    have callbacks := steady.holding (List.ne_nil_of_mem held)
    unfold Thread.atLarge
    split
    next => rfl
    next frame rest stack =>
      have calling : frame.inCallback = true := callbacks frame (by rw [stack]; exact List.mem_cons_self)
      unfold Frame.inCallback at calling
      split at calling
      next same =>
        rw [same]
        rfl
      next => cases calling
  · obtain ⟨top, rest, stack⟩ := List.exists_cons_of_ne_nil (List.ne_nil_of_mem inside)
    have own : frame = top := by
      rw [stack] at inside
      refine (List.mem_cons.mp inside).resolve_right fun deeper => ?_
      have calling : frame.inCallback = true := steady.below frame (by rw [stack]; exact deeper)
      simp [Frame.inCallback, activity] at calling
    subst own
    refine (goesOn_or_waits found stack).resolve_right fun waits => ?_
    rw [activity] at waits
    cases waits

def System.GoesOn (system : System α κ) : Prop :=
  ∃ index thread, system.threads[index]? = some thread ∧ CanGoOn system index thread

/-- Nobody waits for a unit in vain: whoever has it goes on. -/
theorem System.Steady.owner_goesOn (steady : system.Steady) {number : Nat}
    (taken : system.store.isLocked number = true) : system.GoesOn := by
  obtain ⟨holder, inside, holds⟩ := steady.held number taken
  obtain ⟨index, found⟩ := List.mem_iff_getElem?.mp inside
  exact ⟨index, holder, found, holder_goesOn found (steady.threads holder inside) holds⟩

end Waiting

theorem full_of_waits {background : Bool} {store : Store α κ} {job : Job κ}
    (waits : (store.enqueue background job).1 = .waits) :
    background = false ∧ store.queue.capacity ≤ store.queue.jobs.length := by
  unfold Store.enqueue at waits
  dsimp only at waits
  split at waits
  next => cases waits
  next =>
    split at waits
    next => cases waits
    next full =>
      cases background with
      | true => cases waits
      | false => exact ⟨rfl, Nat.not_lt.mp full⟩

theorem positive_of_check {configuration : Configuration} (valid : configuration.check = .ok ()) :
    0 < configuration.cache.queueLength.toNat ∧ 0 < configuration.cache.workers.toNat := by
  unfold Configuration.check at valid
  split at valid
  next => cases valid
  next room =>
    split at valid
    next => cases valid
    next workers =>
      have positive {number : UInt64} (other : ¬(number == 0) = true) : 0 < number.toNat := by
        rw [Nat.pos_iff_ne_zero]
        intro zero
        exact other (beq_iff_eq.mpr (UInt64.toNat_inj.mp zero))
      exact ⟨positive room, positive workers⟩

section Runs

variable {flags : ParseFlags} {capacity : Nat} {roles : List Role} {history : List (Moment α κ)} {system : System α κ}

/-- While jobs wait a worker goes on, or somebody else has the unit that it waits for. -/
theorem Run.worker_goesOn (run : Run flags capacity roles history system) (steady : system.Steady)
    (employs : .worker ∈ roles) (alive : system.stopping = false) (waiting : system.store.queue.jobs ≠ []) :
    system.GoesOn := by
  rw [← run.same_roles] at employs
  obtain ⟨worker, inside, role⟩ := List.mem_map.mp employs
  obtain ⟨index, found⟩ := List.mem_iff_getElem?.mp inside
  cases stack : worker.stack with
  | nil =>
    obtain ⟨job, behind, jobs⟩ := List.exists_cons_of_ne_nil waiting
    obtain ⟨next, made, _⟩ := run.takes_next alive found role stack jobs
    exact ⟨index, worker, found, .takes (by rw [made]; rfl)⟩
  | cons frame rest =>
    rcases goesOn_or_waits found stack with goes | waits
    · exact ⟨index, worker, found, goes⟩
    · generalize frame.activity = activity at waits
      cases waits with
      | room job giving waits =>
        have background : worker.background = true := by simp [Thread.background, role]
        rw [background] at waits
        cases (full_of_waits waits).1
      | unit handle use taken => exact steady.owner_goesOn taken

/-- Before the cache is given up, no run of behaved callers comes to a stop with anything begun or any job waiting: then
somebody goes on, and does not wait for room, nor for a unit. -/
theorem no_system_is_stuck {configuration : Configuration} (valid : configuration.check = .ok ())
    (run : Run configuration.parser.flags configuration.cache.queueLength.toNat roles history system)
    (employs : roles.count .worker = configuration.cache.workers.toNat)
    (behaved : ∀ moment ∈ history, moment.behaved = true) (alive : system.stopping = false)
    (busy : system.frames ≠ [] ∨ system.store.queue.jobs ≠ []) : system.GoesOn := by
  obtain ⟨room, workers⟩ := positive_of_check valid
  have steady := run.steady behaved
  have worker : .worker ∈ roles := List.count_pos_iff.mp (employs ▸ workers)
  by_cases waiting : system.store.queue.jobs = []
  · obtain ⟨frame, inside⟩ := List.exists_mem_of_ne_nil _ (busy.resolve_right (not_not.mpr waiting))
    obtain ⟨thread, present, own⟩ := List.mem_flatMap.mp inside
    obtain ⟨index, found⟩ := List.mem_iff_getElem?.mp present
    obtain ⟨top, rest, stack⟩ := List.exists_cons_of_ne_nil (List.ne_nil_of_mem own)
    rcases goesOn_or_waits found stack with goes | waits
    · exact ⟨index, thread, found, goes⟩
    · generalize top.activity = activity at waits
      cases waits with
      | room job giving waits =>
        have full := (full_of_waits waits).2
        rw [waiting, run.queue.1] at full
        exact absurd full (Nat.not_le.mpr room)
      | unit handle use taken => exact steady.owner_goesOn taken
  · exact run.worker_goesOn steady worker alive waiting

end Runs

def narrow : Configuration := { cache := { queueLength := 1 } }

/-- The only worker is in a callback, which queues a job while the queue is full; a client waits for room. -/
def queuesInCallback : List (Move Unit Unit) :=
  [.thread 0 (.call (.addParse { request := ⟨⟨"a.c"⟩, [], none⟩, callback := some () })), .thread 0 .proceed,
    .thread 0 .proceed, .thread 1 .take, .thread 1 .proceed, .thread 1 .proceed,
    .thread 1 (.parsed (.error .unsavedFile)), .thread 1 .proceed, .thread 1 .proceed,
    .thread 0 (.call (.addParse { request := ⟨⟨"b.c"⟩, [], none⟩ })), .thread 0 .proceed, .thread 0 .proceed,
    .thread 2 (.call (.addParse { request := ⟨⟨"c.c"⟩, [], none⟩ })), .thread 2 .proceed,
    .thread 1 (.call (.addParse { request := ⟨⟨"d.c"⟩, [], none⟩ })), .thread 1 .proceed]

theorem full_queue_is_not_stuck :
    ∃ (history : List (Moment Unit Unit)) (system : System Unit Unit),
      Run narrow.parser.flags narrow.cache.queueLength.toNat [.client, .worker, .client] history system ∧
      (system.move? (.thread 2 .proceed)).isNone = true ∧ system.GoesOn := by
  obtain ⟨history, system, run, checked⟩ := Run.of_follow narrow.parser.flags narrow.cache.queueLength.toNat
    [.client, .worker, .client] queuesInCallback
    (fun history system => history.all Moment.behaved && (!system.stopping && (!system.frames.isEmpty &&
      (system.move? (.thread 2 .proceed)).isNone))) (by decide)
  simp only [Bool.and_eq_true, List.all_eq_true, Bool.not_eq_true', List.isEmpty_eq_false_iff] at checked
  obtain ⟨behaved, alive, busy, waits⟩ := checked
  exact ⟨history, system, run, waits, no_system_is_stuck rfl run rfl behaved alive (.inl busy)⟩

/-- A client keeps a unit in use, and asks for candidates in it. -/
def asksWhatItKeeps : List (Move Unit Unit) :=
  [.thread 0 (.call (.getUnit ⟨⟨"a.c"⟩, [], none⟩)), .thread 0 .proceed, .thread 0 .proceed,
    .thread 0 (.parsed (.ok ())), .thread 0 .proceed, .thread 0 .proceed,
    .thread 0 (.call (.hold ⟨0, ⟨⟨"a.c"⟩, [], none⟩⟩)), .thread 0 .proceed,
    .thread 0 (.call (.complete (.inSaved ⟨"a.c"⟩ 1 1))), .thread 0 .proceed]

/-- Callers have to behave: one that keeps a unit in use and calls the cache may wait for itself. -/
theorem unit_kept_over_call_can_block :
    ∃ (history : List (Moment Unit Unit)) (system : System Unit Unit),
      Run narrow.parser.flags narrow.cache.queueLength.toNat [.client, .worker] history system ∧
      system.stopping = false ∧ system.frames ≠ [] ∧ ¬system.GoesOn := by
  cases followed : (System.start narrow.parser.flags narrow.cache.queueLength.toNat [.client, .worker]).follow
      asksWhatItKeeps with
  | none => cases followed
  | some made =>
    refine ⟨made.1, made.2, Run.start.follow followed, ?_⟩
    cases followed
    refine ⟨rfl, List.cons_ne_nil _ _, ?_⟩
    rintro ⟨_ | _ | _, thread, found, goes⟩
    · cases found
      exact not_goesOn_of_waits rfl rfl (.unit _ _ rfl) goes
    · cases found
      cases goes with
      | works made | releases _ made | takes made => cases made
      | parses made => cases made .panic
      | reparses made => cases made .panic
      | completes made => cases made .panic []
      | returns _ made => cases made true
    · cases found

end UnitCache.Interleaving
