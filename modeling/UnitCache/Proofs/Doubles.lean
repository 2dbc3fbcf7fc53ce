import UnitCache.Proofs.Sites
/-!
The threads of a cache that knows of one path only. Each thread of the other cache has two here, itself and a client
beside it. It does what it is itself there for: its own calls, if it is a client, and the jobs for the path with all
that is called from within them. What it calls for the path from elsewhere, say from the callback of a job for another
path, the client calls in its place.
-/
namespace UnitCache.Interleaving

variable {α κ : Type}

/-- Something begun for a path, as it is where there is no other path. -/
structure Mirrors (number : Nat → Nat) (frame mirror : Frame α κ) : Prop where
  activity : mirror.activity = frame.activity.single.renumber number
  job : mirror.task.job? = frame.task.job?

/-- Two threads that do for a path what one does for many. Only one of them is at it. -/
structure Doubles (path : Path) (number : Nat → Nat) (thread main beside : Thread α κ) : Prop where
  role : main.role = thread.role
  client : beside.role = .client
  guards : ((thread.guards.filter fun handle => path == handle.request.path).map (Handle.renumber number)).Perm
    (main.guards ++ beside.guards)
  stack : List.Forall₂ (Mirrors number) (thread.stack.filter (Frame.on path)) (main.stack ++ beside.stack)
  free : main.role = .client ∨ main.stack ≠ [] → beside.stack = []

structure Doubled (path : Path) (number : Nat → Nat) (threads others : List (Thread α κ)) : Prop where
  length : others.length = threads.length + threads.length
  each : ∀ (index : Nat) (thread : Thread α κ), threads[index]? = some thread → ∃ main beside,
    others[index]? = some main ∧ others[threads.length + index]? = some beside ∧ Doubles path number thread main beside

section Frames

variable {path : Path} {number : Nat → Nat} {frame mirror : Frame α κ}

theorem Mirrors.kept (mirrors : Mirrors number frame mirror) :
    mirror.kept = frame.kept.map (Handle.renumber number) := by
  obtain ⟨own, task, activity⟩ := frame
  obtain ⟨other, again, mirrored⟩ := mirror
  obtain ⟨rfl, -⟩ := mirrors
  cases activity with
  | acquire handle use => cases use <;> rfl
  | _ => rfl

theorem Mirrors.on (mirrors : Mirrors number frame mirror) (path : Path) : mirror.on path = frame.on path := by
  cases job : frame.task.job? with
  | some work =>
    have task {other : Frame α κ} (known : other.task.job? = some work) : other.task = .job work := by
      cases own : other.task <;> rw [own] at known <;> cases known
      rfl
    rw [Frame.on_of_job (task job), Frame.on_of_job (task (mirrors.job.trans job))]
  | none =>
    rw [Frame.on_of_other job, Frame.on_of_other (mirrors.job.trans job), mirrors.activity, names_renumber,
      names_single]

theorem names_of_kept {handle : Handle} (kept : frame.kept = some handle) :
    handle.request.path ∈ names frame.activity := by
  unfold Frame.kept at kept
  split at kept
  next =>
    cases kept
    exact List.mem_cons_self
  next => cases kept

/-- What is left of a frame, and the unit that it leaves in use, are left where there is no other path. -/
theorem Mirrors.after (mirrors : Mirrors number frame mirror) {background : Bool} {store next : Store α κ}
    {choice : Choice α κ} {turn : Turn α κ} {left : Option (Frame α κ)} (sited : Sited frame)
    (later : ∀ behind ∈ left, Sited behind) (keyed : Keyed store)
    (chosen : turn? background store frame.activity choice = some turn) (went : frame.after? turn = some (next, left))
    (on : frame.on path = true) (alone : Store α κ) :
    ∃ mirrored, mirror.after? ((turn.single frame.activity).over number alone) = some (alone, mirrored) ∧
      List.Forall₂ (Mirrors number) (left.toList.filter (Frame.on path)) mirrored.toList ∧
      (if mirrored.isNone then mirror.kept.toList else []) =
        (if left.isNone then frame.kept.toList else []).map (Handle.renumber number) := by
  cases turn with
  | next store behind warnings =>
    cases went
    have its_own := later _ rfl
    cases all : ofAll behind with
    | true =>
      -- All units are built anew, and this one has had its turn.
      obtain ⟨left, queued, count, gives, rfl⟩ := (refreshing_of_turn chosen all).resolve_left fun all => by
        rw [sited.off_of_all all] at on
        cases on
      rw [single_of_refreshing gives]
      have unkept : frame.kept = none := by
        unfold Frame.kept
        split
        next => cases gives
        next => rfl
      refine ⟨none, rfl, ?_, ?_⟩
      · rw [Option.toList_some, List.filter_cons_of_neg (by rw [its_own.off_of_all rfl]; exact Bool.false_ne_true)]
        exact .nil
      · simp [mirrors.kept, unkept]
    | false =>
      have other : ∀ left count, behind ≠ .refreshNext left count := by
        rintro left count rfl
        cases all
      have stays := sited.stays_on its_own keyed chosen on all
      rw [single_next other]
      refine ⟨some { mirror with activity := behind.single.renumber number }, rfl, ?_, rfl⟩
      rw [Option.toList_some, List.filter_cons_of_pos stays]
      exact .cons ⟨rfl, mirrors.job⟩ .nil
  | done store outcome warnings =>
    cases went
    refine ⟨none, rfl, .nil, ?_⟩
    rw [mirrors.kept]
    cases frame.kept <;> rfl
  | _ => cases went

end Frames

section Threads

variable {path : Path} {number : Nat → Nat} {thread later main beside : Thread α κ} {frame mirror : Frame α κ}
  {rest left : List (Frame α κ)}

theorem Doubles.same (doubles : Doubles path number thread main beside) (role : later.role = thread.role)
    (guards : (later.guards.filter fun handle => path == handle.request.path).Perm
      (thread.guards.filter fun handle => path == handle.request.path))
    (stack : later.stack.filter (Frame.on path) = thread.stack.filter (Frame.on path)) :
    Doubles path number later main beside :=
  ⟨doubles.role.trans role.symm, doubles.client, (guards.map _).trans doubles.guards, stack ▸ doubles.stack,
    doubles.free⟩

theorem outside_of_mirrors {frames mirrors : List (Frame α κ)} (mirror : List.Forall₂ (Mirrors number) frames mirrors)
    (resting : ∀ frame ∈ frames, outside frame.activity = true) : ∀ frame ∈ mirrors, outside frame.activity = true := by
  induction mirror with
  | nil => simp
  | cons alike _ ih =>
    obtain ⟨own, others⟩ := List.forall_mem_cons.mp resting
    refine List.forall_mem_cons.mpr ⟨?_, ih others⟩
    rw [alike.activity, outside_renumber, outside_single, own]

theorem atLarge_of_outside (resting : ∀ frame ∈ thread.stack, outside frame.activity = true) :
    thread.atLarge = true := by
  unfold Thread.atLarge
  split
  next => rfl
  next frame rest stack => exact resting frame (by rw [stack]; exact List.mem_cons_self)

theorem Doubles.calls (doubles : Doubles path number thread main beside) (later : Thread α κ) (clock : Nat)
    (resting : ∀ frame ∈ thread.stack.filter (Frame.on path), outside frame.activity = true)
    (role : later.role = thread.role) (guards : later.guards = thread.guards)
    (stack : later.stack.filter (Frame.on path) = frame :: thread.stack.filter (Frame.on path))
    {task : Task κ} {activity : Activity α κ} (mirrors : Mirrors number frame ⟨clock, task, activity⟩) :
    (main.mayCall = true ∧ Doubles path number later (main.begin clock task activity) beside) ∨
      beside.mayCall = true ∧ Doubles path number later main (beside.begin clock task activity) := by
  have outside_all := outside_of_mirrors doubles.stack resting
  by_cases own : main.role = .client ∨ main.stack ≠ []
  · have idle := doubles.free own
    have large : main.atLarge = true := atLarge_of_outside fun frame inside =>
      outside_all frame (List.mem_append_left _ inside)
    refine .inl ⟨?_, doubles.role.trans role.symm, doubles.client, guards ▸ doubles.guards, ?_, fun _ => idle⟩
    · simpa [Thread.mayCall, large] using own
    · rw [stack]
      exact .cons mirrors doubles.stack
  · have idle : main.stack = [] := by
      by_contra busy
      exact own (.inr busy)
    have large : beside.atLarge = true := atLarge_of_outside fun frame inside =>
      outside_all frame (List.mem_append_right _ inside)
    have piles := doubles.stack
    rw [idle, List.nil_append] at piles
    refine .inr ⟨?_, doubles.role.trans role.symm, doubles.client, guards ▸ doubles.guards, ?_,
      fun busy => absurd busy own⟩
    · simp [Thread.mayCall, large, doubles.client]
    · rw [stack, idle]
      exact .cons mirrors piles

theorem Doubles.begins (doubles : Doubles path number thread main beside) (idle : thread.stack = [])
    {clock other : Nat} {task again : Task κ} {activity mirrored : Activity α κ}
    (on : Frame.on path (⟨clock, task, activity⟩ : Frame α κ) = true)
    (mirrors : Mirrors number ⟨clock, task, activity⟩ ⟨other, again, mirrored⟩) :
    main.stack = [] ∧
      Doubles path number (thread.begin clock task activity) (main.begin other again mirrored) beside := by
  have piles := doubles.stack
  rw [idle] at piles
  obtain ⟨mine, its⟩ := List.append_eq_nil_iff.mp (List.forall₂_nil_left_iff.mp piles)
  refine ⟨mine, doubles.role, doubles.client, doubles.guards, ?_, fun _ => its⟩
  simp only [Thread.begin, idle, mine, its, List.filter_cons, on, if_true, List.filter_nil, List.append_nil]
  exact .cons mirrors .nil

/-- What a thread goes on with for the path, the one of the two goes on with that is at it. -/
theorem Doubles.goes_on (doubles : Doubles path number thread main beside) (later : Thread α κ) {gained : List Handle}
    (own : thread.stack.filter (Frame.on path) = frame :: rest) (role : later.role = thread.role)
    (guards : later.guards.filter (fun handle => path == handle.request.path) =
      gained ++ thread.guards.filter fun handle => path == handle.request.path)
    (stack : later.stack.filter (Frame.on path) = left ++ rest) :
    ∃ mirror others, Mirrors number frame mirror ∧
      ((main.stack = mirror :: others ∧ ∀ mirrors, List.Forall₂ (Mirrors number) left mirrors →
        Doubles path number later { main with
          guards := gained.map (Handle.renumber number) ++ main.guards
          stack := mirrors ++ others } beside) ∨
      (beside.stack = mirror :: others ∧ ∀ mirrors, List.Forall₂ (Mirrors number) left mirrors →
        Doubles path number later main { beside with
          guards := gained.map (Handle.renumber number) ++ beside.guards
          stack := mirrors ++ others })) := by
  have piles := doubles.stack
  rw [own] at piles
  obtain ⟨mirror, others, mirrors, rest_mirrored, whole⟩ := List.forall₂_cons_left_iff.mp piles
  have more : ((later.guards.filter fun handle => path == handle.request.path).map (Handle.renumber number)).Perm
      (gained.map (Handle.renumber number) ++ (main.guards ++ beside.guards)) := by
    rw [guards, List.map_append]
    exact doubles.guards.append_left _
  have its_role := doubles.role.trans role.symm
  cases idle : main.stack with
  | nil =>
    rw [idle, List.nil_append] at whole
    refine ⟨mirror, others, mirrors, .inr ⟨whole, fun lefts alike => ⟨its_role, doubles.client, ?_, ?_, ?_⟩⟩⟩
    · exact more.trans (List.perm_append_comm_assoc ..)
    · rw [stack, idle]
      exact List.rel_append alike rest_mirrored
    · intro busy
      rw [doubles.free busy] at whole
      cases whole
  | cons top under =>
    have alone : beside.stack = [] := doubles.free (.inr (by simp [idle]))
    rw [idle, alone, List.append_nil] at whole
    refine ⟨mirror, others, mirrors, .inl ⟨whole, fun lefts alike => ⟨its_role, doubles.client, ?_, ?_, ?_⟩⟩⟩
    · rwa [List.append_assoc]
    · rw [stack, alone, List.append_nil]
      exact List.rel_append alike rest_mirrored
    · exact fun _ => alone

theorem Doubles.releases (doubles : Doubles path number thread main beside)
    (resting : ∀ frame ∈ thread.stack.filter (Frame.on path), outside frame.activity = true) {handle : Handle}
    (held : handle ∈ thread.guards) (on : (path == handle.request.path) = true) :
    let there := handle.renumber number
    let free (thread : Thread α κ) (handle : Handle) : Thread α κ :=
      { thread with guards := thread.guards.erase handle }
    (main.atLarge = true ∧ there ∈ main.guards ∧ Doubles path number (free thread handle) (free main there) beside) ∨
      beside.atLarge = true ∧ there ∈ beside.guards ∧
        Doubles path number (free thread handle) main (free beside there) := by
  intro there free
  have outside_all := outside_of_mirrors doubles.stack resting
  have split : ((thread.guards.filter fun handle => path == handle.request.path).map (Handle.renumber number)).Perm
      (there :: (((free thread handle).guards.filter fun handle => path == handle.request.path).map
        (Handle.renumber number))) := by
    have whole := ((List.perm_cons_erase held).filter fun handle => path == handle.request.path).map
      (Handle.renumber number)
    rwa [List.filter_cons_of_pos (by exact on), List.map_cons] at whole
  have both := split.symm.trans doubles.guards
  rcases List.mem_append.mp (both.subset List.mem_cons_self) with mine | its
  · refine .inl ⟨atLarge_of_outside fun frame inside => outside_all frame (List.mem_append_left _ inside), mine,
      doubles.role, doubles.client, ?_, doubles.stack, doubles.free⟩
    exact (both.trans ((List.perm_cons_erase mine).append_right beside.guards)).cons_inv
  · refine .inr ⟨atLarge_of_outside fun frame inside => outside_all frame (List.mem_append_right _ inside), its,
      doubles.role, doubles.client, ?_, doubles.stack, doubles.free⟩
    exact (both.trans (((List.perm_cons_erase its).append_left main.guards).trans List.perm_middle)).cons_inv

end Threads

section Lists

variable {path : Path} {number : Nat → Nat} {threads others : List (Thread α κ)} {index : Nat}
  {thread later : Thread α κ}

theorem Doubled.same (doubled : Doubled path number threads others) (found : threads[index]? = some thread)
    (each : ∀ main beside, Doubles path number thread main beside → Doubles path number later main beside) :
    Doubled path number (threads.set index later) others := by
  refine ⟨by rw [List.length_set, doubled.length], fun place other inside => ?_⟩
  rw [List.length_set]
  rw [List.getElem?_set] at inside
  split at inside
  next same =>
    subst same
    obtain ⟨main, beside, here, there, doubles⟩ := doubled.each index thread found
    have known : other = later := by
      rw [if_pos (List.getElem?_eq_some_iff.mp found).1] at inside
      exact (Option.some.inj inside).symm
    exact ⟨main, beside, here, there, known ▸ each main beside doubles⟩
  next => exact doubled.each place other inside

theorem getElem?_set_of_apart (others : List (Thread α κ)) {place other : Nat} (next : Thread α κ)
    (below : other < threads.length) (apart : place % threads.length ≠ other) :
    (others.set place next)[other]? = others[other]? ∧
      (others.set place next)[threads.length + other]? = others[threads.length + other]? := by
  have first : place ≠ other := by
    rintro rfl
    exact apart (Nat.mod_eq_of_lt below)
  have second : place ≠ threads.length + other := by
    rintro rfl
    exact apart (by rw [Nat.add_mod_left, Nat.mod_eq_of_lt below])
  exact ⟨List.getElem?_set_ne first, List.getElem?_set_ne second⟩

/-- Where one of the two of a thread moves, all other threads have theirs as before. -/
theorem Doubled.set (doubled : Doubled path number threads others) (inside : index < threads.length) {place : Nat}
    {next : Thread α κ} (its : place % threads.length = index)
    (own : ∃ main beside, (others.set place next)[index]? = some main ∧
      (others.set place next)[threads.length + index]? = some beside ∧ Doubles path number later main beside) :
    Doubled path number (threads.set index later) (others.set place next) := by
  refine ⟨by rw [List.length_set, List.length_set, doubled.length], fun other found known => ?_⟩
  rw [List.length_set]
  by_cases same : other = index
  · subst same
    rw [List.getElem?_set_self inside] at known
    exact Option.some.inj known ▸ own
  · rw [List.getElem?_set_ne (Ne.symm same)] at known
    have below := (List.getElem?_eq_some_iff.mp known).1
    have stay := getElem?_set_of_apart others next below (its.trans_ne (Ne.symm same))
    rw [stay.1, stay.2]
    exact doubled.each other found known

theorem Doubled.one (doubled : Doubled path number threads others) (found : threads[index]? = some thread)
    (does : Thread α κ → Thread α κ → Prop) (each : ∀ main beside, Doubles path number thread main beside →
      (∃ next, does main next ∧ Doubles path number later next beside) ∨
        ∃ next, does beside next ∧ Doubles path number later main next) :
    ∃ place doer next, others[place]? = some doer ∧ place % threads.length = index ∧ does doer next ∧
      Doubled path number (threads.set index later) (others.set place next) := by
  obtain ⟨main, beside, here, there, doubles⟩ := doubled.each index thread found
  have inside : index < threads.length := (List.getElem?_eq_some_iff.mp found).1
  rcases each main beside doubles with ⟨next, goes, after⟩ | ⟨next, goes, after⟩
  · have its := Nat.mod_eq_of_lt inside
    refine ⟨index, main, next, here, its, goes, doubled.set inside its ⟨next, beside, ?_, ?_, after⟩⟩
    · exact List.getElem?_set_self (List.getElem?_eq_some_iff.mp here).1
    · rw [List.getElem?_set_ne (by omega), there]
  · have its : (threads.length + index) % threads.length = index := by rw [Nat.add_mod_left, Nat.mod_eq_of_lt inside]
    refine ⟨threads.length + index, beside, next, there, its, goes, doubled.set inside its ⟨main, next, ?_, ?_, after⟩⟩
    · rw [List.getElem?_set_ne (by omega), here]
    · exact List.getElem?_set_self (List.getElem?_eq_some_iff.mp there).1

end Lists

end UnitCache.Interleaving
