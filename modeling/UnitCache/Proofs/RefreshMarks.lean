import UnitCache.Proofs.Origins
import UnitCache.Proofs.WorkItems
/-!
What is done to a path while it is marked for a job that builds its unit anew. Others only pass by: they find the unit
or take it out, and put requests down. All else is done by the worker that runs the job, until it takes the mark off.
-/
namespace UnitCache.Interleaving

variable {α κ : Type}

/-- Whether a deed is one of somebody who passes by a marked path. -/
def Deed.passing : Deed → Bool
  | .hit _ | .dropped _ | .recorded _ | .present _ => true
  | _ => false

def Deed.working : Deed → Bool
  | .served _ | .stocked | .called _ | .kept _ | .failed | .panicked | .refreshFailed | .evicted _ => true
  | .tookOver _ _ byJob => byJob
  | _ => false

theorem Deed.recorded_of_passing (deed : Deed) (passing : deed.passing = true) (touches : deed.touches = true) :
    ∃ request, deed = .recorded request := by
  cases deed with
  | recorded request => exact ⟨request, rfl⟩
  | hit | dropped | present => cases touches
  | _ => cases passing

theorem Deed.tookOver_of_working (deed : Deed) (working : deed.working = true) (touches : deed.touches = true) :
    ∃ request entry, deed = .tookOver request entry true := by
  cases deed with
  | tookOver request entry byJob =>
    cases working
    exact ⟨request, entry, rfl⟩
  | served | stocked | called | kept | failed | panicked | refreshFailed | evicted => cases touches
  | _ => cases working

theorem Deed.settles_of_touches (deed : Deed) (quiet : deed.touches = false) : deed.settles = false := by
  cases deed <;> first | rfl | cases quiet

/-- Nothing is done to a marked path but by those who pass by, and by the worker that runs the job, if one does. -/
def LeftToWorker (worker : Option Nat) (since : List (Nat × Deed)) : Prop :=
  ∀ pair ∈ since, pair.2.passing = true ∨ some pair.1 = worker ∧ pair.2.working = true

def MarkedForRefresh (path : Path) (worker : Option Nat) (history : List (Moment α κ)) : Prop :=
  ∃ earlier adder since, deeds path history = earlier ++ (adder, .refreshing) :: since ∧ LeftToWorker worker since

section Marks

variable {path : Path} {worker : Option Nat} {history : List (Moment α κ)} {moment : Moment α κ}

theorem deeds_append (path : Path) (history : List (Moment α κ)) (moment : Moment α κ) :
    deeds path (history ++ [moment]) = deeds path history ++ (moment.at? path).toList := by
  cases told : moment.at? path <;> simp [deeds, told]

theorem MarkedForRefresh.append (marked : MarkedForRefresh path worker history)
    (more : ∀ pair ∈ moment.at? path, pair.2.passing = true ∨ some pair.1 = worker ∧ pair.2.working = true) :
    MarkedForRefresh path worker (history ++ [moment]) := by
  obtain ⟨earlier, adder, since, split, left_to⟩ := marked
  refine ⟨earlier, adder, since ++ (moment.at? path).toList, by rw [deeds_append, split]; simp, ?_⟩
  intro pair inside
  rcases List.mem_append.mp inside with inside | inside
  · exact left_to pair inside
  · exact more pair (by simpa using inside)

theorem MarkedForRefresh.taken (marked : MarkedForRefresh path none history) (worker : Option Nat) :
    MarkedForRefresh path worker history := by
  obtain ⟨earlier, adder, since, split, left_to⟩ := marked
  refine ⟨earlier, adder, since, split, fun pair inside => ?_⟩
  rcases left_to pair inside with passing | ⟨own, _⟩
  · exact .inl passing
  · cases own

end Marks

section Courses

variable {path : Path} {row earlier since : List (Nat × Deed)} {held next : View} {phase later : Option Phase}

theorem Passage.passing {done : Option (Nat × Deed)} {owned : Phase}
    (passage : Passage path done held (some owned) next (some owned)) : ∀ pair ∈ done, pair.2.passing = true := by
  rintro pair told
  cases told
  generalize before : some owned = phase at passage
  generalize behind : some owned = later at passage
  cases passage with
  | own effect =>
    subst before
    cases behind
    cases effect with
    | refused _ _ waits => rcases waits with same | ⟨_, same⟩ <;> cases same
    | panicked _ _ asked => rcases asked with same | ⟨_, same⟩ <;> cases same
  | aside effect => cases effect <;> rfl

theorem Passage.clears {number : Nat} {found : Option Request} {entry : Option Handle}
    (passage : Passage path (some (number, .cleared found entry)) held phase next later) : later = none := by
  cases passage with
  | own effect => cases effect; rfl
  | aside effect => cases effect

theorem Passage.pending_of_tookOver {number : Nat} {request : Request} {entry : Option Handle} {byJob : Bool}
    (passage : Passage path (some (number, .tookOver request entry byJob)) held phase next later) :
    held.pending = some request ∧ next.pending = none := by
  cases passage with
  | own effect =>
    cases effect with
    | tookOver _ _ _ put => exact ⟨put, rfl⟩
  | aside effect => cases effect

/-- Who takes a mark off is at work for the path, and the unit it has found serves what it has found put down. -/
theorem Passage.found_of_cleared {number : Nat} {found : Option Request} {entry : Option Handle}
    (passage : Passage path (some (number, .cleared found entry)) held phase next later) :
    phase = some .busy ∧ found = held.pending ∧ entry = held.entry ∧
      ∀ request, held.pending = some request →
        ∃ handle, held.entry = some handle ∧ handle.request.serves request = true := by
  cases passage with
  | own effect =>
    cases effect with
    | cleared _ served => exact ⟨rfl, rfl, rfl, served⟩
  | aside effect => cases effect

/-- Once nobody puts a request down any more, of what touches the one put down only its being given to the worker is
left. -/
theorem LeftToWorker.given {worker : Nat} (left_to : LeftToWorker (some worker) since)
    (last : ∀ pair ∈ since, ∀ request, pair.2 ≠ .recorded request) {pair : Nat × Deed} (inside : pair ∈ since)
    (touches : pair.2.touches = true) : ∃ request was, pair = (worker, .tookOver request was true) := by
  rcases left_to pair inside with passing | ⟨own, working⟩
  · obtain ⟨request, put_down⟩ := pair.2.recorded_of_passing passing touches
    exact absurd put_down (last _ inside request)
  · obtain ⟨request, was, given⟩ := pair.2.tookOver_of_working working touches
    exact ⟨request, was, Prod.ext (Option.some.inj own) given⟩

/-- What is put down while a path is left to a worker was put down in that time, and nobody has settled since. -/
theorem Course.recorded_since {adder : Nat} {request : Request}
    (course : Course path (earlier ++ (adder, .refreshing) :: since) held phase) (put : held.pending = some request) :
    ∃ first frame last, since = first ++ (frame, .recorded request) :: last ∧
      ∀ pair ∈ last, pair.2.touches = false := by
  induction since using List.reverseRecOn generalizing held phase with
  | nil =>
    obtain ⟨was, first, course, passage⟩ := course.last
    have free : was.marked = false ∧ held.pending = was.pending := by
      cases passage with
      | own effect => cases effect with
        | refreshing _ _ free => exact ⟨free, rfl⟩
      | aside effect => cases effect
    have marked := course.marked_of_pending (by rw [← free.2, put]; rfl)
    rw [free.1] at marked
    cases marked
  | append_singleton since pair ih =>
    obtain ⟨number, deed⟩ := pair
    rw [← List.cons_append, ← List.append_assoc] at course
    obtain ⟨was, first, course, passage⟩ := course.last
    cases touches : deed.touches with
    | false =>
      obtain ⟨first, frame, last, rfl, quiet⟩ := ih course ((passage.keeps_pending touches).symm.trans put)
      refine ⟨first, frame, last ++ [(number, deed)], by simp, ?_⟩
      intro pair inside
      rcases List.mem_append.mp inside with inside | inside
      · exact quiet pair inside
      · rw [List.mem_singleton.mp inside]
        exact touches
    | true =>
      refine ⟨since, number, [], ?_, by simp⟩
      have told := passage.told course.marked_of_owned
      cases deed with
      | recorded other =>
        obtain ⟨_, rfl⟩ := told
        cases put
        rfl
      | tookOver | cleared | released =>
        simp only [Told] at told
        simp_all
      | _ => cases touches

theorem before_eq_of_quiet {stops : Deed → Bool} {row : List (Nat × Deed)}
    (quiet : ∀ pair ∈ row, stops pair.2 = false) : before stops row = row :=
  List.takeWhile_eq_self_iff.mpr fun pair inside => by simp [quiet pair inside]

def Tried (number : Nat) (request : Request) (row : List (Nat × Deed)) : Prop :=
  (number, .failed) ∈ row ∨ ∃ handle, handle.request = request ∧ (number, .kept handle) ∈ row

theorem Tried.append {number : Nat} {request : Request} (tried : Tried number request row) (more : List (Nat × Deed)) :
    Tried number request (row ++ more) :=
  tried.imp (List.mem_append_left _) fun ⟨handle, own, kept⟩ => ⟨handle, own, List.mem_append_left _ kept⟩

theorem Course.tried_since {number : Nat} {request : Request}
    (course : Course path (earlier ++ (number, .called request) :: since) held (some .busy))
    (quiet : before Deed.settles since = since) : Tried number request since := by
  have reached := course.until Deed.settles
    (fun row _ phase => phase = some (.building request number) ∨ Tried number request row ∨
      ∃ frame, phase = some (.leaving frame)) ?begins ?goes_on
  case begins =>
    intro was next first later _ passage
    cases passage with
    | own effect => cases effect; exact .inl rfl
    | aside effect => cases effect
  case goes_on =>
    intro row was next first later frame deed _ kept passage stays
    rcases kept with rfl | tried | ⟨other, rfl⟩
    · cases passage with
      | own effect =>
        cases effect with
        | kept _ handle => exact .inr (.inl (.inr ⟨handle, rfl, by simp⟩))
        | failed => exact .inr (.inl (.inl (by simp)))
        | panicked => exact .inr (.inr ⟨_, rfl⟩)
        | refused => exact .inr (.inr ⟨_, rfl⟩)
      | aside effect => exact .inl rfl
      | discarded _ _ _ waits => rcases waits with same | ⟨_, same⟩ <;> cases same
    · exact .inr (.inl (tried.append _))
    · cases passage with
      | own effect =>
        cases effect with
        | released => cases stays
        | refused | panicked => exact .inr (.inr ⟨_, rfl⟩)
      | aside effect => exact .inr (.inr ⟨_, rfl⟩)
      | discarded _ _ _ waits => rcases waits with same | ⟨_, same⟩ <;> cases same
  rcases reached with ⟨_, known | tried | ⟨_, known⟩⟩ | ⟨_, _, _, _, _, _, _, cut, _⟩
  · cases known
  · exact tried
  · cases known
  · rw [quiet] at cut
    have longer := congrArg List.length cut
    simp at longer

theorem Course.built_since {number : Nat} {request : Request} {entry : Option Handle}
    (course : Course path (earlier ++ (number, .tookOver request entry true) :: since) held (some .busy))
    (quiet : before Deed.settles since = since) : calls since = [(number, request)] ∧ Tried number request since := by
  have once : calls since = [(number, request)] := by
    rcases course.errand rfl with ⟨_, errand⟩ | once
    · cases errand with
      | called once => exact once
    · rwa [quiet] at once
  refine ⟨once, ?_⟩
  have asked : (number, .called request) ∈ since := by
    have inside : (number, request) ∈ calls since := by simp [once]
    obtain ⟨⟨other, deed⟩, there, told⟩ := List.mem_filterMap.mp inside
    cases deed <;> cases told
    exact there
  obtain ⟨first, last, rfl⟩ := List.append_of_mem asked
  have rest : before Deed.settles last = last := before_eq_of_quiet fun pair inside => by
    have among : pair ∈ before Deed.settles (first ++ (number, .called request) :: last) := by
      rw [quiet]
      exact List.mem_append_right _ (List.mem_cons_of_mem _ inside)
    exact before_quiet among
  rw [← List.cons_append, ← List.append_assoc] at course
  exact (course.tried_since rest).imp (fun failed => List.mem_append_right _ (List.mem_cons_of_mem _ failed))
    fun ⟨handle, own, kept⟩ => ⟨handle, own, List.mem_append_right _ (List.mem_cons_of_mem _ kept)⟩

/-- What has become of the last request that was put down while the path was left to the worker, when this has taken the
mark off: it was still there, and the unit in the cache serves it; or the worker was given it and has had it built, once. -/
inductive Fulfilled (worker : Nat) (request : Request) (found : Option Request) (entry : Option Handle)
    (last : List (Nat × Deed)) : Prop where
  | served (put : found = some request)
      (fits : ∃ handle, entry = some handle ∧ handle.request.serves request = true)
  | built (first : List (Nat × Deed)) (was : Option Handle) (rest : List (Nat × Deed))
      (given : last = first ++ (worker, .tookOver request was true) :: rest)
      (once : calls rest = [(worker, request)]) (tried : Tried worker request rest)

theorem Course.fulfilled {worker number other : Nat} {request : Request} {found : Option Request}
    {entry : Option Handle} (course : Course path (earlier ++ (other, .recorded request) :: since) held phase)
    (passage : Passage path (some (number, .cleared found entry)) held phase next later)
    (left_to : LeftToWorker (some worker) since) (last : ∀ pair ∈ since, ∀ request, pair.2 ≠ .recorded request) :
    Fulfilled worker request found entry since := by
  obtain ⟨busy, put, there, served⟩ := passage.found_of_cleared
  rcases course.recorded with ⟨_, waits⟩ | ⟨frame, deed, rest, was, first, _, _, cut, touches, _, waits, passed⟩
  · subst put there
    exact .served waits (served _ waits)
  · have within : (frame, deed) :: rest ⊆ since := by
      rw [cut]
      exact List.subset_append_right _ _
    obtain ⟨taken, before_it, same⟩ := left_to.given last (within List.mem_cons_self) touches
    cases same
    obtain rfl : taken = request := by
      have told := passed.pending_of_tookOver
      rw [waits] at told
      exact (Option.some.inj told.1).symm
    have whole : earlier ++ (other, .recorded taken) :: since =
        (earlier ++ (other, .recorded taken) :: before Deed.touches since) ++
          (worker, .tookOver taken before_it true) :: rest := by
      rw [List.append_assoc, List.cons_append, ← cut]
    rw [whole, busy] at course
    have untouched : before Deed.touches rest = rest := by
      rcases course.pending_until fun passage => passage.pending_of_tookOver.2 with
        ⟨quiet, _⟩ | ⟨frame, deed, more, _, _, _, _, again, touches, _, nothing, passed⟩
      · exact quiet
      · have inside : (frame, deed) ∈ rest := by
          rw [again]
          simp
        obtain ⟨_, _, same⟩ := left_to.given last (within (List.mem_cons_of_mem _ inside)) touches
        cases same
        rw [passed.pending_of_tookOver.1] at nothing
        cases nothing
    have quiet : before Deed.settles rest = rest := before_eq_of_quiet fun pair inside => by
      rw [← untouched] at inside
      exact pair.2.settles_of_touches (before_quiet inside)
    obtain ⟨once, tried⟩ := course.built_since quiet
    exact .built _ before_it rest cut once tried

end Courses

section Acts

variable {system next : System α κ} {move : Move α κ} {act : Act α κ} {job : Job κ} {paths : List Path}

theorem at?_of_act (told : Moment.act? ⟨system, move⟩ = some act) (path : Path) :
    (⟨system, move⟩ : Moment α κ).at? path =
      (onPath path (act.frame.deed? act.background act.store act.choice)).map (act.frame.number, ·) := by
  cases move with
  | thread index choice =>
    simp only [Moment.act?, Option.bind_eq_bind, Option.bind_eq_some_iff, Option.ite_none_right_eq_some,
      Option.some.injEq] at told
    obtain ⟨thread, found, frame, top, turned, rfl⟩ := told
    obtain ⟨rest, stack⟩ : ∃ rest, thread.stack = frame :: rest := by
      cases stack : thread.stack with
      | nil => simp [stack] at top
      | cons first rest => exact ⟨rest, by simpa [stack] using top⟩
    have goes : choice ≠ .take := by
      rintro rfl
      cases turned
    rw [Moment.at?, note?_continues found stack goes, Option.map_map]
    exact onPath_map path (frame.number, ·) _
  | _ => cases told

theorem working_of_deed {background : Bool} {store : Store α κ} {frame : Frame α κ} {choice : Choice α κ} {path : Path}
    {deed : Deed} (subjects : subjects? frame.activity = some (.job job, paths))
    (told : frame.deed? background store choice = some (path, deed)) :
    deed.working = true ∨ ∃ found entry, deed = .cleared found entry := by
  obtain ⟨number, task, activity⟩ := frame
  cases choice with
  | proceed =>
    cases activity with
    | load request owner =>
      cases subjects
      simp only [Frame.deed?, deedOf, Owner.path?, Option.map_some, Option.some.injEq, Prod.mk.injEq] at told
      obtain ⟨-, rfl⟩ := told
      split <;> exact .inl rfl
    | settle owner built =>
      cases subjects
      simp only [Frame.deed?, deedOf, Owner.path?, Option.map_some, Option.some.injEq, Prod.mk.injEq] at told
      obtain ⟨-, rfl⟩ := told
      split
      next => exact .inl rfl
      next => exact .inr ⟨_, _, rfl⟩
    | build | keep | evict =>
      cases subjects
      cases told
      exact .inl rfl
    | acquire _ use | «using» _ use => cases use <;> cases told
    | dropReplaced | parsing | noteFailure | find | noteReparse | noteReparseFailure => cases told
    | _ => cases subjects
  | parsed answer =>
    cases activity with
    | parsing request owner =>
      cases subjects
      cases answer <;> cases told <;> exact .inl rfl
    | _ => cases told
  | reparsed answer =>
    cases activity with
    | «using» handle use =>
      cases use with
      | refresh request owner =>
        cases subjects
        cases answer <;> cases told <;> exact .inl rfl
      | _ => cases told
    | _ => cases told
  | _ => cases told

theorem stake_of_subjects {frame : Frame α κ} (subjects : subjects? frame.activity = some (.job job, paths)) :
    ∃ phase, frame.stake? = some (job.request.path, phase) := by
  obtain ⟨number, task, activity⟩ := frame
  cases activity with
  | acquire _ use | «using» _ use =>
    cases use with
    | refresh =>
      cases subjects
      exact ⟨_, rfl⟩
    | _ => cases subjects
  | noteReparse _ _ failure _ =>
    cases subjects
    cases failure <;> exact ⟨_, rfl⟩
  | _ => first | (cases subjects; exact ⟨_, rfl⟩) | cases subjects

end Acts

section Runs

variable {flags : ParseFlags} {capacity : Nat} {roles : List Role} {history : List (Moment α κ)} {system : System α κ}

theorem stake_of_job {job : Job κ} (waits : job ∈ system.store.queue.jobs) :
    ((jobStake job).1, (jobStake job).2) ∈ system.stakes :=
  List.mem_append_left _ (List.mem_map_of_mem waits)

/-- Whoever keeps a mark during a move, others have passed by. -/
theorem Run.passing {move : Move α κ} {next : System α κ} {path : Path} {phase : Phase}
    (run : Run flags capacity roles history system) (made : system.move? move = some next)
    (was : (path, phase) ∈ system.stakes) (is : (path, phase) ∈ next.stakes) :
    ∀ pair ∈ (⟨system, move⟩ : Moment α κ).at? path, pair.2.passing = true := by
  have passage := passage_of_move run.sound.1 run.sound.2 made path
  rw [run.phase_of_told was BEq.rfl, (run.move made).phase_of_told is BEq.rfl] at passage
  exact passage.passing

/-- Whoever has a mark for a job that builds a unit anew has it since the path was marked for such a job. -/
structure Refreshers (history : List (Moment α κ)) (system : System α κ) : Prop where
  queued : ∀ job ∈ system.store.queue.jobs, job.kind = .reparse → MarkedForRefresh job.request.path none history
  queuing : ∀ frame ∈ system.frames, ∀ job giving, frame.activity = .enqueue job giving → job.kind = .reparse →
    MarkedForRefresh job.request.path none history
  running : ∀ frame ∈ system.frames, ∀ job paths, subjects? frame.activity = some (.job job, paths) →
    job.kind = .reparse → MarkedForRefresh job.request.path (some frame.number) history

section Steps

variable {move : Move α κ} {next : System α κ} {job : Job κ}

theorem Refreshers.job_stays (refreshers : Refreshers history system)
    (run : Run flags capacity roles history system) (made : system.move? move = some next)
    (was : job ∈ system.store.queue.jobs) (is : job ∈ next.store.queue.jobs) (kind : job.kind = .reparse) :
    MarkedForRefresh job.request.path none (history ++ [⟨system, move⟩]) :=
  (refreshers.queued job was kind).append fun pair told =>
    .inl (run.passing made (stake_of_job was) (stake_of_job is) pair told)

theorem Refreshers.frame_stays (refreshers : Refreshers history system)
    (run : Run flags capacity roles history system) (made : system.move? move = some next) {frame : Frame α κ}
    (was : frame ∈ system.frames) (is : frame ∈ next.frames) :
    (∀ job giving, frame.activity = .enqueue job giving → job.kind = .reparse →
      MarkedForRefresh job.request.path none (history ++ [⟨system, move⟩])) ∧
    ∀ job paths, subjects? frame.activity = some (.job job, paths) → job.kind = .reparse →
      MarkedForRefresh job.request.path (some frame.number) (history ++ [⟨system, move⟩]) := by
  refine ⟨fun job giving activity kind => ?_, fun job paths subjects kind => ?_⟩
  · have stake : frame.stake? = some ((jobStake job).1, (jobStake job).2) := by rw [Frame.stake?, activity]
    exact (refreshers.queuing frame was job giving activity kind).append fun pair told =>
      .inl (run.passing made (stake_of_frame was stake) (stake_of_frame is stake) pair told)
  · obtain ⟨phase, stake⟩ := stake_of_subjects subjects
    exact (refreshers.running frame was job paths subjects kind).append fun pair told =>
      .inl (run.passing made (stake_of_frame was stake) (stake_of_frame is stake) pair told)

theorem Refreshers.taken (refreshers : Refreshers history system) (run : Run flags capacity roles history system)
    (made : system.move? move = some next) (was : job ∈ system.store.queue.jobs) {number : Nat} {task : Task κ}
    (is : ⟨number, task, .ofJob job⟩ ∈ next.frames) (kind : job.kind = .reparse) :
    MarkedForRefresh job.request.path (some number) (history ++ [⟨system, move⟩]) := by
  have stake : (⟨number, task, .ofJob job⟩ : Frame α κ).stake? = some ((jobStake job).1, (jobStake job).2) := by
    simp [Activity.ofJob, kind, Frame.stake?, Owner.path?, jobStake]
  refine ((refreshers.queued job was kind).append fun pair told => ?_).taken _
  exact .inl (run.passing made (stake_of_job was) (stake_of_frame is stake) pair told)

theorem activity_of_enters {act : Act α κ} (enters : act.enters? = some job) :
    ∃ giving, act.frame.activity = .enqueue job giving := by
  unfold Act.enters? at enters
  split at enters
  next queued giving activity =>
    split at enters
    next =>
      cases enters
      exact ⟨giving, activity⟩
    next => cases enters
  next => cases enters

theorem Refreshers.accepted (refreshers : Refreshers history system) (run : Run flags capacity roles history system)
    (made : system.move? move = some next) {frame : Frame α κ} {giving : Giving} (was : frame ∈ system.frames)
    (activity : frame.activity = .enqueue job giving) (is : job ∈ next.store.queue.jobs) (kind : job.kind = .reparse) :
    MarkedForRefresh job.request.path none (history ++ [⟨system, move⟩]) := by
  have stake : frame.stake? = some ((jobStake job).1, (jobStake job).2) := by rw [Frame.stake?, activity]
  exact (refreshers.queuing frame was job giving activity kind).append fun pair told =>
    .inl (run.passing made (stake_of_frame was stake) (stake_of_job is) pair told)

theorem held_of_marking {act : Act α κ} {left : Frame α κ} {giving : Giving} {turn : Turn α κ} {store : Store α κ}
    (told : Moment.act? ⟨system, move⟩ = some act) (turned : act.turn? = some turn)
    (went : act.frame.after? turn = some (store, some left)) (activity : left.activity = .enqueue job giving)
    (kind : job.kind = .reparse) : MarkedForRefresh job.request.path none (history ++ [⟨system, move⟩]) := by
  cases turn with
  | next later behind warnings =>
    have follows : Follows act.store act.frame.activity behind := follows_of_turn turned
    have rule : Rule act.background act.store act.frame.activity act.choice (.next later behind warnings) :=
      rule_of_turn turned
    obtain rfl : behind = .enqueue job giving := by
      cases went
      exact activity
    generalize doing : act.frame.activity = before at follows rule
    generalize chosen : act.choice = choice at rule
    cases follows with
    | parse => cases kind
    | hands => cases kind
    | reparse asked =>
      generalize same : Turn.next later (.enqueue { asked with kind := .reparse } giving) warnings = turn at rule
      cases rule with
      | spare => cases giving <;> cases same
      | reparse _ _ there free =>
        have deed : act.frame.deed? act.background act.store act.choice = some (asked.request.path, .refreshing) := by
          rcases admitReparse_cases act.store asked.request.path with ⟨needless, _⟩ | ⟨_, _, admitted⟩
          · rcases needless with absent | marked
            · rw [absent] at there
              cases there
            · rw [free] at marked
              cases marked
          · simp [Frame.deed?, chosen, doing, deedOf, admitted]
        refine ⟨deeds asked.request.path history, act.frame.number, [], ?_, by simp [LeftToWorker]⟩
        rw [deeds_append, at?_of_act told, deed, onPath_same _ BEq.rfl]
        rfl
  | _ => cases went

theorem Refreshers.works_on (refreshers : Refreshers history system) (run : Run flags capacity roles history system)
    (made : system.move? move = some next) {act : Act α κ} {left : Frame α κ} {turn : Turn α κ} {store : Store α κ}
    {paths : List Path} (told : Moment.act? ⟨system, move⟩ = some act) (turned : act.turn? = some turn)
    (went : act.frame.after? turn = some (store, some left)) (is : left ∈ next.frames)
    (subjects : subjects? left.activity = some (.job job, paths)) (kind : job.kind = .reparse) :
    MarkedForRefresh job.request.path (some left.number) (history ++ [⟨system, move⟩]) := by
  obtain ⟨others, working⟩ : ∃ others, subjects? act.frame.activity = some (.job job, others) := by
    cases turn with
    | next later behind warnings =>
      cases went
      rcases (follows_of_turn turned).owner subjects with known | ⟨_, other⟩
      · exact known
      · cases other
    | _ => cases went
  rw [(after?_same went).1]
  refine (refreshers.running _ (act_inside told) job others working kind).append fun pair done => .inr ?_
  rw [at?_of_act told, Option.mem_def, Option.map_eq_some_iff] at done
  obtain ⟨deed, here, rfl⟩ := done
  refine ⟨rfl, ?_⟩
  obtain ⟨pair, doing, rfl⟩ := Option.map_eq_some_iff.mp here
  obtain ⟨doing, same⟩ := Option.filter_eq_some_iff.mp doing
  obtain ⟨other, deed⟩ := pair
  rcases working_of_deed working doing with works | ⟨found, entry, rfl⟩
  · exact works
  · obtain ⟨phase, stake⟩ := stake_of_subjects subjects
    have passage := passage_of_move run.sound.1 run.sound.2 made job.request.path
    rw [at?_of_act told, here, (run.move made).phase_of_stake is stake BEq.rfl] at passage
    cases passage.clears

theorem Refreshers.after_act (refreshers : Refreshers history system) (run : Run flags capacity roles history system)
    (made : system.move? move = some next) {act : Act α κ} {turn : Turn α κ} {left : Option (Frame α κ)}
    {others : List (Frame α κ)} (told : Moment.act? ⟨system, move⟩ = some act) (here : act.store = system.store)
    (turned : act.turn? = some turn) (went : act.frame.after? turn = some (next.store, left))
    (was : system.frames.Perm (act.frame :: others)) (is : next.frames.Perm (left.toList ++ others)) :
    Refreshers (history ++ [⟨system, move⟩]) next := by
  have jobs := jobs_of_act (run.keyed_of_act told) (run.sound.1.fits _ (act_inside told)) turned went
  have stay (frame : Frame α κ) (inside : frame ∈ others) :=
    refreshers.frame_stays run made (was.symm.subset (List.mem_cons_of_mem _ inside))
      (is.symm.subset (List.mem_append_right _ inside))
  refine ⟨fun job waits kind => ?_, fun frame inside job giving activity kind => ?_,
    fun frame inside job paths subjects kind => ?_⟩
  · have before_or_new := waits
    rw [jobs, here, List.mem_append, Option.mem_toList] at before_or_new
    rcases before_or_new with before | enters
    · exact refreshers.job_stays run made before waits kind
    · obtain ⟨giving, activity⟩ := activity_of_enters enters
      exact refreshers.accepted run made (act_inside told) activity waits kind
  · rcases left_or_beside is inside with rfl | other
    · exact held_of_marking told turned went activity kind
    · exact (stay frame other).1 job giving activity kind
  · rcases left_or_beside is inside with rfl | other
    · exact refreshers.works_on run made told turned went inside subjects kind
    · exact (stay frame other).2 job paths subjects kind

theorem Moment.Leaves.waited {moment : Moment α κ} {store : Store α κ} (leaves : moment.Leaves store)
    (waits : job ∈ store.queue.jobs) : job ∈ moment.system.store.queue.jobs := by
  rw [Moment.Leaves] at leaves
  rw [leaves]
  exact List.mem_append_right _ waits

theorem Refreshers.after_begin (refreshers : Refreshers history system) (run : Run flags capacity roles history system)
    (made : system.move? move = some next) {task : Task κ} {activity : Activity α κ} (first : Begins task activity)
    (is : next.frames.Perm (⟨system.clock, task, activity⟩ :: system.frames))
    (taken : Moment.departs? ⟨system, move⟩ = task.job?.map (some system.clock, ·))
    (leaves : Moment.Leaves ⟨system, move⟩ next.store) : Refreshers (history ++ [⟨system, move⟩]) next := by
  have stay (frame : Frame α κ) (inside : frame ∈ system.frames) :=
    refreshers.frame_stays run made inside (is.symm.subset (List.mem_cons_of_mem _ inside))
  refine ⟨fun job waits kind => refreshers.job_stays run made (leaves.waited waits) waits kind,
    fun frame inside job giving doing kind => ?_, fun frame inside job paths subjects kind => ?_⟩
  · rcases List.mem_cons.mp (is.subset inside) with rfl | other
    · cases first with
      | operation operation => cases operation <;> cases doing
      | job work => cases work_kind : work.kind <;> simp [Activity.ofJob, work_kind] at doing
      | tick => cases doing
    · exact (stay frame other).1 job giving doing kind
  · rcases List.mem_cons.mp (is.subset inside) with rfl | other
    · cases first with
      | operation operation => cases operation <;> cases subjects
      | job work =>
        obtain ⟨_, known⟩ := subjects?_ofJob (α := α) work
        rw [known] at subjects
        cases subjects
        refine refreshers.taken run made ?_ inside kind
        rw [Moment.Leaves, taken] at leaves
        rw [leaves]
        exact List.mem_cons_self
      | tick => cases subjects
    · exact (stay frame other).2 job paths subjects kind

theorem Refreshers.after_rest (refreshers : Refreshers history system) (run : Run flags capacity roles history system)
    (made : system.move? move = some next) (is : next.frames.Perm system.frames)
    (leaves : Moment.Leaves ⟨system, move⟩ next.store) : Refreshers (history ++ [⟨system, move⟩]) next := by
  have stay (frame : Frame α κ) (inside : frame ∈ next.frames) :=
    refreshers.frame_stays run made (is.subset inside) inside
  exact ⟨fun job waits kind => refreshers.job_stays run made (leaves.waited waits) waits kind,
    fun frame inside => (stay frame inside).1, fun frame inside => (stay frame inside).2⟩

end Steps

theorem Run.refreshers (run : Run flags capacity roles history system) : Refreshers history system := by
  induction run with
  | start => exact ⟨by simp [System.start, Store.empty], by simp [frames_start], by simp [frames_start]⟩
  | move run made ih =>
    cases progress_of_move made with
    | acts _ _ _ _ told _ here turned went was is => exact ih.after_act run made told here turned went was is
    | begins _ _ _ _ first is _ taken leaves => exact ih.after_begin run made first is taken leaves
    | rests _ _ is _ _ leaves => exact ih.after_rest run made is leaves

end Runs

end UnitCache.Interleaving
