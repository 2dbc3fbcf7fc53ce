import UnitCache.Proofs.Projections
/-!
What is about a path stays about it, and what is not does not come to be, except where all units are built anew: then
the path has its turn, and once a job is queued for it, or is not, another path has.
-/
namespace UnitCache.Interleaving

variable {α κ : Type}

def ofAll : Activity α κ → Bool
  | .collect | .refreshNext .. => true
  | _ => false

/-- Something begun is about one path, or about all. -/
structure Sited (frame : Frame α κ) : Prop where
  placed : Placed frame
  nameless : names frame.activity = [] → (∃ callback, frame.activity = .calling callback) ∨ ofAll frame.activity = true
  job : ∀ callback, frame.activity = .calling callback → frame.task.job?.isSome = true
  all : ofAll frame.activity = true → frame.task.job? = none

section Turns

variable {background : Bool} {store next : Store α κ} {activity behind : Activity α κ} {choice : Choice α κ}
  {warnings : List Warning}

theorem ofAll_give {giving : Giving} {accepted : Bool} {later : Store α κ} {noted : List Warning}
    (goes : giving.give later accepted warnings = .next next behind noted) :
    ∃ left queued count, giving = .refreshing left queued ∧ behind = .refreshNext left count := by
  cases giving <;> cases goes
  exact ⟨_, _, _, rfl, rfl⟩

theorem refreshing_of_turn (chosen : turn? background store activity choice = some (.next next behind warnings))
    (all : ofAll behind = true) : ofAll activity = true ∨
      ∃ left queued count, activity.giving? = some (.refreshing left queued) ∧ behind = .refreshNext left count := by
  have rule := rule_of_turn chosen
  generalize same : Turn.next next behind warnings = turn at rule
  cases rule with
  | present | record | spare | accepted | withdraw =>
    obtain ⟨left, queued, count, rfl, behind⟩ := ofAll_give same.symm
    exact .inr ⟨left, queued, count, rfl, behind⟩
  | collect | refreshNext | reorder => exact .inl rfl
  | served _ owner | keep _ _ owner | noteFailure _ _ owner | findNothing _ owner | noteReparse _ _ owner
  | evict _ owner | parsePanicked _ owner | refreshPanicked _ _ owner =>
    cases owner <;> cases same <;> cases all
  | settleAlone owner | settle owner =>
    cases owner with
    | job work =>
      cases called : work.callback <;> simp only [Owner.finish, called] at same <;> cases same
      cases all
    | _ => cases same
  | takeOver owner => cases owner <;> cases same <;> cases all
  | stale | first | dropStale | parse | reparse | full | closed | replaced | absent | dropReplaced | build | parsed
  | parseFailed | find | acquire | ask | refreshDone | refreshFailed | noteReparseFailed | noteReparseFailure =>
    cases same
    cases all
  | _ => cases same

theorem ofAll_of_turn (chosen : turn? background store activity choice = some (.next next behind warnings))
    (all : ofAll activity = true) : ofAll behind = true ∨
      ∃ request left queued, activity = .refreshNext (request :: left) queued ∧ choice = .proceed ∧ next = store ∧
        behind = .admitReparse { request } (.refreshing left queued) := by
  have rule := rule_of_turn chosen
  generalize same : Turn.next next behind warnings = turn at rule
  cases rule with
  | collect | reorder =>
    cases same
    exact .inl rfl
  | refreshNext request left queued =>
    cases same
    exact .inr ⟨request, left, queued, rfl, rfl, rfl, rfl⟩
  | refreshed => cases same
  | _ => cases all

end Turns

section Frames

variable {path : Path} {frame : Frame α κ} {activity behind : Activity α κ}

theorem Frame.on_of_names {other : Path} (inside : other ∈ names frame.activity) (placed : Placed frame)
    (here : (other == path) = true) : frame.on path = true := by
  rw [← Bool.not_eq_false]
  intro off
  rw [placed.names_of_off off other inside] at here
  cases here

theorem Frame.on_of_job {work : Job κ} (task : frame.task = .job work) :
    frame.on path = (path == work.request.path) := by
  simp [Frame.on, Frame.place?, task]

theorem Frame.on_of_other (other : frame.task.job? = none) :
    frame.on path = (names frame.activity).head?.any (path == ·) := by
  unfold Frame.on Frame.place?
  split
  next work task =>
    rw [task] at other
    cases other
  next => rfl

theorem Sited.off_of_all (sited : Sited frame) (all : ofAll frame.activity = true) : frame.on path = false := by
  rw [Frame.on_of_other (sited.all all)]
  cases activity : frame.activity <;> rw [activity] at all <;> first | rfl | cases all

theorem Sited.named (sited : Sited frame) (on : frame.on path = true) (nameless : names frame.activity = []) :
    ∃ callback, frame.activity = .calling callback := by
  refine (sited.nameless nameless).resolve_right fun all => ?_
  rw [sited.off_of_all all] at on
  cases on

section Turns

variable {background : Bool} {store next : Store α κ} {choice : Choice α κ} {warnings : List Warning}

theorem Sited.stays_on (sited : Sited frame) (later : Sited { frame with activity := behind }) (keyed : Keyed store)
    (chosen : turn? background store frame.activity choice = some (.next next behind warnings))
    (on : frame.on path = true) (one : ofAll behind = false) : Frame.on path { frame with activity := behind } = true := by
  cases named : names behind with
  | nil =>
    obtain ⟨callback, calls⟩ := (later.nameless named).resolve_right (by rw [one]; exact Bool.false_ne_true)
    obtain ⟨work, job⟩ := Option.isSome_iff_exists.mp (later.job callback calls)
    have task : frame.task = .job work := by
      dsimp only at job
      cases known : frame.task <;> rw [known] at job <;> cases job
      rfl
    have task_behind : ({ frame with activity := behind } : Frame α κ).task = .job work := task
    rw [Frame.on_of_job task] at on
    rw [Frame.on_of_job task_behind, on]
  | cons first rest =>
    have inside : first ∈ names behind := named ▸ List.mem_cons_self
    refine Frame.on_of_names inside later.placed ?_
    rcases names_of_turn keyed chosen (sited.placed.names_of_on on) with all | ⟨_, _, _, activity, _, _⟩
    · exact all first inside
    · rw [sited.off_of_all (by rw [activity]; rfl)] at on
      cases on

theorem Sited.stays_off (sited : Sited frame) (keyed : Keyed store)
    (chosen : turn? background store frame.activity choice = some (.next next behind warnings))
    (off : frame.on path = false) (one : ofAll frame.activity = false) :
    Frame.on path { frame with activity := behind } = false := by
  rw [← Bool.not_eq_true]
  intro on
  cases job : frame.task.job? with
  | some work =>
    have task : frame.task = .job work := by
      cases known : frame.task <;> rw [known] at job <;> cases job
      rfl
    have task_behind : ({ frame with activity := behind } : Frame α κ).task = .job work := task
    rw [Frame.on_of_job task] at off
    rw [Frame.on_of_job task_behind, off] at on
    cases on
  | none =>
    obtain ⟨first, known, here⟩ := (Option.any_eq_true _ _).mp ((Frame.on_of_other (by exact job)).symm.trans on)
    have inside : first ∈ names behind := List.mem_of_mem_head? known
    obtain ⟨place, all, -⟩ := sited.placed
    cases named : names frame.activity with
    | nil =>
      rcases sited.nameless named with ⟨callback, calls⟩ | all
      · have some_job := sited.job callback calls
        rw [job] at some_job
        cases some_job
      · rw [one] at all
        cases all
    | cons own rest =>
      have there : own ∈ names frame.activity := named ▸ List.mem_cons_self
      rcases names_of_turn keyed chosen all with same | ⟨_, _, _, activity, _, _⟩
      · have apart := sited.placed.names_of_off off own there
        rw [BEq.trans (all own there) (BEq.symm (BEq.trans here (same first inside)))] at apart
        cases apart
      · rw [activity] at one
        cases one

end Turns

end Frames

section Stores

variable {path : Path} {mine : Nat → Bool} {background : Bool} {store alone next : Store α κ} {activity : Activity α κ}
  {choice : Choice α κ} {turn : Turn α κ}

theorem view_of_off (off : ∀ other ∈ names activity, (other == path) = false)
    (chosen : turn? background store activity choice = some turn) (left : storeOf? turn = some next) :
    view next path = view store path := by
  obtain ⟨part, rfl, does⟩ := part_of_rule (rule_of_turn chosen) left
  exact view_apply_apart store part fun own inside => off own (does.names own inside)

theorem Restricts.passes (restricts : Restricts path mine store alone)
    (off : ∀ other ∈ names activity, (other == path) = false)
    (used : ∀ handle ∈ activity.handles, mine handle.number = (path == handle.request.path))
    (fresh : ∀ request artifact owner, activity = .keep request artifact owner →
      mine store.cells.length = (path == request.path))
    (chosen : turn? background store activity choice = some turn) (left : storeOf? turn = some next) :
    Restricts path mine next alone := by
  obtain ⟨part, rfl, does⟩ := part_of_rule (rule_of_turn chosen) left
  have apart {other : Path} (named : other ∈ names activity) : (path == other) = false :=
    BEq.comm.trans (off other named)
  refine restricts.aside part (fun own inside => off own (does.names own inside)) (fun handle inside => ?_) ?_
  · rw [used handle (does.handles handle inside)]
    refine apart (does.names _ ?_)
    cases part <;> cases inside <;> rfl
  · intro request artifact keeps
    obtain ⟨owner, rfl⟩ := does.keeps request artifact keeps
    rw [fresh request artifact owner rfl]
    exact apart (List.mem_cons_self)

theorem enqueue_accepted (job : Job κ) : (store.enqueue background job).1 = .accepted ↔
    store.queue.isOpen = true ∧ store.queue.jobs.length < store.queue.capacity := by
  unfold Store.enqueue
  cases isOpen : store.queue.isOpen with
  | false => simp [isOpen]
  | true => by_cases room : store.queue.jobs.length < store.queue.capacity <;> cases background <;> simp [isOpen, room]

theorem accepted_of_turn {job : Job κ} {giving : Giving} (isOpen : store.queue.isOpen = true)
    (roomy : (store.enqueue background job).1 ≠ .full)
    (chosen : turn? background store (.enqueue job giving) choice = some turn) (left : storeOf? turn = some next) :
    (store.enqueue background job).1 = .accepted := by
  have rule := rule_of_turn chosen
  cases rule with
  | accepted _ _ queued => exact queued
  | full _ _ queued => exact absurd queued roomy
  | closed _ _ queued =>
    unfold Store.enqueue at queued
    simp only [isOpen, Bool.not_true, Bool.false_eq_true, if_false] at queued
    split at queued
    next => cases queued
    next => cases background <;> cases queued
  | awaitRoom => cases left

/-- Where there is room for a job among those for all paths, there is room among those for its own. -/
theorem Restricts.enqueue (restricts : Restricts path mine store alone) {own : Bool} {job : Job κ}
    (accepted : (store.enqueue background job).1 = .accepted) : (alone.enqueue own job).1 = .accepted := by
  obtain ⟨isOpen, room⟩ := (enqueue_accepted job).mp accepted
  refine (enqueue_accepted job).mpr ⟨restricts.isOpen.trans isOpen, ?_⟩
  rw [restricts.jobs, restricts.capacity]
  exact Nat.lt_of_le_of_lt (List.length_filter_le ..) room

theorem storeOf?_single : storeOf? (turn.single activity) = storeOf? turn := by
  cases turn with
  | next _ behind =>
    cases behind with
    | refreshNext =>
      simp only [Turn.single]
      split <;> rfl
    | _ => rfl
  | _ => rfl

theorem storeOf?_over (number : Nat → Nat) (moved : (storeOf? turn).isSome = true) :
    storeOf? (turn.over number alone) = some alone := by
  cases turn <;> first | rfl | cases moved

theorem Restricts.goes_on (restricts : Restricts path mine store alone) (all : AllOf path (names activity))
    (named : names activity = [] → ∃ callback, activity = .calling callback)
    (units : ∀ place handle, (place == path) = true → store.peek place = some handle → mine handle.number = true)
    (used : ∀ handle ∈ activity.handles, mine handle.number = (path == handle.request.path))
    (fresh : ∀ request artifact owner, activity = .keep request artifact owner →
      mine store.cells.length = (path == request.path))
    (isOpen : store.queue.isOpen = true)
    (roomy : ∀ job giving, activity = .enqueue job giving → (store.enqueue background job).1 ≠ .full)
    (chosen : turn? background store activity choice = some turn) (left : storeOf? turn = some next) (own : Bool) :
    ∃ after, Restricts path mine next after ∧
      turn? own alone (activity.single.renumber (rank mine)) choice =
        some ((turn.single activity).over (rank mine) after) := by
  have one : ∀ left queued, activity ≠ .refreshNext left queued := by
    rintro left queued rfl
    obtain ⟨_, same⟩ := named rfl
    cases same
  obtain ⟨after, restricted, rule⟩ : ∃ after, Restricts path mine next after ∧
      Rule own alone (activity.single.renumber (rank mine)) choice ((turn.single activity).over (rank mine) after) := by
    refine restricts.reflects units ?_ ?_ ?_ ?_ ?_ (single_of_rule (rule_of_turn chosen) one) (storeOf?_single.trans left)
    · rwa [names_single]
    · intro nameless
      rw [names_single] at nameless
      obtain ⟨callback, rfl⟩ := named nameless
      exact ⟨callback, rfl⟩
    · rwa [Activity.handles_single]
    · intro request artifact owner keeps
      have same : activity = .keep request artifact owner := by cases activity <;> simp_all [Activity.single]
      subst same
      rw [fresh request artifact owner rfl]
      exact BEq.symm (all _ List.mem_cons_self)
    · intro job giving queues
      obtain ⟨other, rfl⟩ : ∃ other, activity = .enqueue job other := by cases activity <;> simp_all [Activity.single]
      have accepted := accepted_of_turn isOpen (roomy job other rfl) chosen left
      exact ⟨accepted, restricts.enqueue accepted⟩
  exact ⟨after, restricted, turn?_of_rule rule⟩

end Stores

section Runs

variable {flags : ParseFlags} {capacity : Nat} {roles : List Role} {history : List (Moment α κ)} {system : System α κ}

theorem Run.calls_for_job (run : Run flags capacity roles history system) : ∀ frame ∈ system.frames, ∀ callback,
    frame.activity = .calling callback → frame.task.job?.isSome = true := by
  induction run with
  | start => simp [frames_start]
  | @move history system next move run made ih =>
    intro frame inside callback calls
    rcases frame_of_move made inside with before | ⟨task, activity, rfl, first, -⟩ |
      ⟨act, warnings, told, there, turned, -, task⟩
    · exact ih frame before callback calls
    · cases first with
      | operation operation => cases operation <;> cases calls
      | job => rfl
      | tick => cases calls
    · rw [calls] at turned
      obtain ⟨work, built, activity, -⟩ := settled_of_calling turned
      rw [task, run.owners act.frame there work [] (by rw [activity]; rfl)]
      rfl

/-- Whatever is in progress is about one path, or about all. -/
theorem Run.sited (run : Run flags capacity roles history system) : ∀ frame ∈ system.frames, Sited frame := by
  intro frame inside
  have working {work : Job κ} (job : frame.task.job? = some work) :
      Working work (acts frame.number history) frame.activity := by
    refine run.working inside ?_
    cases known : frame.task <;> rw [known] at job <;> cases job
    rfl
  refine ⟨run.placed frame inside, fun nameless => ?_, run.calls_for_job frame inside, fun all => ?_⟩
  · cases activity : frame.activity <;> rw [activity] at nameless <;> simp [names] at nameless
    case collect | refreshNext => exact .inr rfl
    case calling callback => exact .inl ⟨callback, rfl⟩
    case settle owner built =>
      obtain ⟨path, owned, -⟩ := run.sound.1.fits frame inside owner [] (by rw [activity]; rfl)
      rw [nameless] at owned
      cases owned
  · cases job : frame.task.job? with
    | none => rfl
    | some work =>
      have works := working job
      cases activity : frame.activity <;> rw [activity] at all works <;> try cases all
      all_goals
        cases works with
        | works subjects => cases subjects

end Runs

end UnitCache.Interleaving
