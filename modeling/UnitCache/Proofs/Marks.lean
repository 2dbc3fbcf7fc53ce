import UnitCache.Proofs.Course
/-!
Who owns the marks. Until the cache is given up, a path is marked as long as exactly one thread or job is there to take
the mark off, so the engine is never asked twice at a time for the unit of one path, and nothing is left behind when all
is done.
-/
namespace UnitCache.Interleaving

variable {α κ : Type}

inductive Holder where
  /-- A thread that has marked the path, and has neither queued its job yet nor taken the mark back. -/
  | queuing
  /-- A job that waits in the queue. -/
  | queued
  /-- A job that runs. -/
  | running
  /-- A client that builds the first unit of the path. -/
  | first
  /-- A job or a first build that has panicked, until the mark is taken off. -/
  | unwinding
  deriving DecidableEq, Repr

def Frame.holder? (frame : Frame α κ) : Option (Path × Holder) :=
  match frame.activity with
  | .enqueue job _ => some (job.request.path, .queuing)
  | .withdraw path _ => some (path, .queuing)
  | .unwind path => some (path, .unwinding)
  | activity =>
    match subjects? activity with
    | some (.job work, _) => some (work.request.path, .running)
    | some (.first request, _) => some (request.path, .first)
    | _ => none

def System.holders (system : System α κ) (path : Path) : List Holder :=
  let queued := system.store.queue.jobs.map fun job => (job.request.path, Holder.queued)
  ((queued ++ system.frames.filterMap Frame.holder?).filter fun pair => pair.1 == path).map Prod.snd

/-- Whether a frame is in the engine, which builds the unit of a path, or builds it anew for a job. -/
def Frame.builds (path : Path) (frame : Frame α κ) : Bool :=
  match frame.activity with
  | .parsing request _ => request.path == path
  | .using handle (.refresh ..) => handle.request.path == path
  | _ => false

theorem holder?_path (frame : Frame α κ) : frame.holder?.map Prod.fst = frame.stake?.map Prod.fst := by
  have owned (owner : Owner κ) (phase : Phase) (paths : List Path) :
      Option.map Prod.fst (match some (owner, paths) with
        | some (.job work, _) => some (work.request.path, Holder.running)
        | some (.first request, _) => some (request.path, Holder.first)
        | _ => none) = (owner.path?.map (·, phase)).map Prod.fst := by cases owner <;> rfl
  obtain ⟨number, task, activity⟩ := frame
  cases activity with
  | load | dropReplaced | build | parsing | keep | noteFailure | find | settle | evict | noteReparseFailure =>
    exact owned _ _ _
  | noteReparse _ _ failure _ => cases failure <;> exact owned _ _ _
  | acquire _ use => cases use with
    | refresh => exact owned _ _ _
    | _ => rfl
  | «using» _ use => cases use with
    | refresh => exact owned _ _ _
    | _ => rfl
  | _ => rfl

theorem length_onPath {β : Type} (told : List (Path × β)) (path : Path) :
    (told.filterMap fun pair => onPath path (some pair)).length = (told.map Prod.fst).countP (· == path) := by
  rw [List.length_filterMap_eq_countP, List.countP_map]
  congr 1
  funext pair
  by_cases here : (pair.1 == path) = true <;> simp [onPath, Option.filter, here]

theorem length_holders (system : System α κ) (path : Path) :
    (system.holders path).length = (system.phases path).length := by
  have jobs : (system.store.queue.jobs.map fun job => (job.request.path, Holder.queued)).map Prod.fst =
      (system.store.queue.jobs.map jobStake).map Prod.fst := by simp [jobStake, Function.comp_def]
  have frames : (system.frames.filterMap Frame.holder?).map Prod.fst =
      (system.frames.filterMap Frame.stake?).map Prod.fst := by simp only [List.map_filterMap, holder?_path]
  rw [System.phases, length_onPath, System.stakes, List.map_append, ← jobs, ← frames, ← List.map_append,
    List.countP_map, System.holders, List.length_map, ← List.countP_eq_length_filter]
  rfl

theorem builds_owned {frame : Frame α κ} {path : Path} (fits : Fits frame.activity)
    (builds : frame.builds path = true) :
    frame.stake?.any (fun stake => stake.1 == path) = true := by
  obtain ⟨number, task, activity⟩ := frame
  cases activity with
  | parsing request owner =>
    obtain ⟨other, owned, same⟩ := fits owner _ rfl
    have here : (other == path) = true := BEq.trans (BEq.symm (same request.path (by simp))) builds
    simpa [Frame.stake?, owned] using here
  | «using» handle use =>
    cases use with
    | refresh request owner =>
      obtain ⟨other, owned, same⟩ := fits owner _ rfl
      have here : (other == path) = true := BEq.trans (BEq.symm (same handle.request.path (by simp))) builds
      simpa [Frame.stake?, owned] using here
    | _ => cases builds
  | _ => cases builds

theorem length_builds {system : System α κ} (sound : Sound system) (path : Path) :
    (system.frames.filter (Frame.builds path)).length ≤ (system.phases path).length := by
  rw [System.phases, length_onPath, System.stakes, List.map_append, List.countP_append]
  have owned : (system.frames.filter (Frame.builds path)).length ≤
      system.frames.countP fun frame => frame.stake?.any fun stake => stake.1 == path := by
    rw [← List.countP_eq_length_filter]
    exact List.countP_mono_left fun frame inside builds => builds_owned (sound.fits frame inside) builds
  have same : (system.frames.countP fun frame => frame.stake?.any fun stake => stake.1 == path) =
      ((system.frames.filterMap Frame.stake?).map Prod.fst).countP (· == path) := by
    rw [List.countP_map, List.countP_filterMap]
    congr 1
    funext frame
    cases frame.stake? <;> rfl
  omega

section Courses

variable {path : Path} {earlier : List (Nat × Deed)} {held : View} {phase : Option Phase}

/-- A path is marked as long as it has an owner, if no job was thrown away. -/
theorem Course.marked_iff (course : Course path earlier held phase)
    (kept : ∀ number, (number, Deed.discarded) ∉ earlier) : held.marked = phase.isSome := by
  induction course with
  | start => rfl
  | deed course passage ih =>
    have before := ih fun number inside => kept number (List.mem_append_left _ inside)
    cases passage with
    | own effect => cases effect <;> first | exact before | rfl
    | aside effect => exact effect.marked_of_aside.trans before
    | discarded => exact absurd (List.mem_append_right _ (List.mem_singleton.mpr rfl)) (kept _)

theorem Course.marked_of_pending (course : Course path earlier held phase) :
    held.pending.isSome = true → held.marked = true := by
  induction course with
  | start => simp
  | deed course passage ih =>
    cases passage with
    | own effect =>
      cases effect with
      | recorded _ _ _ _ marked => exact fun _ => marked
      | first | admitted | refreshing => exact fun _ => rfl
      | tookOver | cleared | released => simp
      | _ => exact ih
    | aside effect =>
      cases effect with
      | recorded _ _ _ _ marked => exact fun _ => marked
      | _ => exact ih
    | discarded => exact ih

end Courses

section Runs

variable {flags : ParseFlags} {capacity : Nat} {roles : List Role} {history : List (Moment α κ)} {system : System α κ}

theorem Run.length_phases (run : Run flags capacity roles history system) (alive : system.stopping = false)
    (path : Path) : (system.phases path).length = if system.store.isParsing path then 1 else 0 := by
  have marked : system.store.isParsing path = (system.phase? path).isSome :=
    (run.course path).marked_iff (run.keeps_jobs alive path)
  have short := run.sound.2.single path
  rw [marked, System.phase?]
  rcases short_cases short with nobody | ⟨phase, alone⟩
  · rw [nobody]
    rfl
  · rw [alone]
    rfl

/-- Until the cache is given up, the marked paths are those that somebody owns, each of them but one; only for them are
requests put down. The engine never builds a unit twice at a time, and when nothing goes on and no job waits, no path is
marked and nothing is put down. -/
theorem marks_have_one_owner (run : Run flags capacity roles history system) (alive : system.stopping = false) :
    (∀ path, (system.holders path).length = if system.store.isParsing path then 1 else 0) ∧
    (∀ path, system.store.pending.contains path = true → system.store.isParsing path = true) ∧
    (∀ path, (system.frames.filter (Frame.builds path)).length ≤ 1) ∧
    (system.frames = [] → system.store.queue.jobs = [] →
      system.store.parsing.entries = [] ∧ system.store.pending.entries = []) := by
  have recorded (path : Path) (put : system.store.pending.contains path = true) :
      system.store.isParsing path = true := by
    rw [PathMap.contains_eq_isSome] at put
    exact (run.course path).marked_of_pending put
  refine ⟨fun path => ?_, recorded, fun path => ?_, fun nothing empty => ?_⟩
  · rw [length_holders]
    exact run.length_phases alive path
  · exact Nat.le_trans (length_builds run.sound.1 path) (run.sound.2.single path)
  · have free (path : Path) : system.store.isParsing path = false := by
      have owners := run.length_phases alive path
      rw [System.phases, System.stakes, nothing, empty] at owners
      cases marked : system.store.isParsing path with
      | false => rfl
      | true => simp [marked] at owners
    have clear (path : Path) : system.store.pending.contains path = false := by
      have unmarked := free path
      contrapose! unmarked
      simp [recorded path (by simpa using unmarked)]
    exact ⟨PathMap.entries_eq_nil free, PathMap.entries_eq_nil clear⟩

end Runs

/-- A client is in the engine, and what another one asks for meanwhile is put down. -/
def asksMeanwhile : List (Move Unit Unit) :=
  [.thread 0 (.call (.getUnit ⟨⟨"a.c"⟩, ["-O2"], none⟩)), .thread 0 .proceed, .thread 0 .proceed,
    .thread 1 (.call (.getUnit ⟨⟨"a.c"⟩, ["-O3"], none⟩)), .thread 1 .proceed]

theorem mark_of_first_build_has_one_owner :
    ∃ (history : List (Moment Unit Unit)) (system : System Unit Unit),
      Run ⟨0⟩ 1 [.client, .client] history system ∧ system.stopping = false ∧
      system.store.pending.contains ⟨"a.c"⟩ = true ∧ (system.holders ⟨"a.c"⟩).length = 1 ∧
      (system.frames.filter (Frame.builds ⟨"a.c"⟩)).length ≤ 1 := by
  obtain ⟨history, system, run, checked⟩ := Run.of_follow ⟨0⟩ 1 [.client, .client] asksMeanwhile
    (fun _ system => !system.stopping && system.store.pending.contains ⟨"a.c"⟩) (by decide)
  obtain ⟨alive, put⟩ : system.stopping = false ∧ system.store.pending.contains ⟨"a.c"⟩ = true := by
    simpa using checked
  obtain ⟨owners, recorded, builds, _⟩ := marks_have_one_owner run alive
  refine ⟨history, system, run, alive, put, ?_, builds _⟩
  rw [owners, recorded _ put]
  rfl

end UnitCache.Interleaving
