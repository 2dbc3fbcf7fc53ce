import UnitCache.Proofs.Origins
import UnitCache.Proofs.WorkItems
/-!
Which path something begun is about. It names no other path as long as it is in progress, and whatever handles it has
are those of units that were made. So all that is begun falls into parts, one for each path.
-/
namespace UnitCache.Interleaving

variable {α κ : Type}

def useNames : Use κ → List Path
  | .refresh request owner => request.path :: owner.path?.toList
  | _ => []

def names : Activity α κ → List Path
  | .lookUp request | .dropStale request _ => [request.path]
  | .admitParse job _ | .admitReparse job _ | .enqueue job _ => [job.request.path]
  | .withdraw path _ | .unwind path => [path]
  | .load request owner | .dropReplaced request owner | .build request owner | .parsing request owner
  | .keep request _ owner | .noteFailure request _ owner | .find request owner => request.path :: owner.path?.toList
  | .settle owner _ => owner.path?.toList
  | .acquire handle use | .using handle use => handle.request.path :: useNames use
  | .noteReparse handle request _ owner | .noteReparseFailure handle request _ owner =>
    handle.request.path :: request.path :: owner.path?.toList
  | .evict handle owner => handle.request.path :: owner.path?.toList
  | .ask query => [query.cursor.file.name]
  | .collect | .refreshNext .. | .calling _ => []

/-- What something begun is about: a job is about its path, and all else about the path that it names first. -/
def Frame.place? (frame : Frame α κ) : Option Path :=
  match frame.task with
  | .job work => some work.request.path
  | _ => (names frame.activity).head?

def Frame.on (path : Path) (frame : Frame α κ) : Bool := frame.place?.any (path == ·)

def AllOf (path : Path) (others : List Path) : Prop := ∀ other ∈ others, (other == path) = true

/-- What is begun names one path only, and a job names its own. -/
def Placed (frame : Frame α κ) : Prop :=
  ∃ path, AllOf path (names frame.activity) ∧ ∀ work, frame.task = .job work → path = work.request.path

section Turns

variable {background : Bool} {store next : Store α κ} {activity behind : Activity α κ} {choice : Choice α κ}
  {warnings : List Warning}

theorem AllOf.mono {path : Path} {others fewer : List Path} (all : AllOf path others) (subset : fewer ⊆ others) :
    AllOf path fewer := fun other inside => all other (subset inside)

section Owners

variable {later : Store α κ} {owner : Owner κ} {built : Option Handle} {noted : List Warning}

theorem names_give {giving : Giving} {accepted : Bool}
    (goes : giving.give later accepted warnings = .next next behind noted) : names behind = [] := by
  cases giving <;> cases goes
  rfl

theorem names_afterBuild (goes : owner.afterBuild later built warnings = .next next behind noted) :
    names behind = owner.path?.toList := by
  cases owner <;> cases goes <;> rfl

theorem names_afterRefresh (goes : owner.afterRefresh later warnings = .next next behind noted) :
    names behind = owner.path?.toList := by
  cases owner <;> cases goes <;> rfl

theorem names_afterPanic (goes : owner.afterPanic later = .next next behind noted) :
    names behind = owner.path?.toList := by
  cases owner <;> cases goes <;> rfl

theorem names_finish (goes : owner.finish later built = .next next behind noted) : names behind = [] := by
  cases owner with
  | job work =>
    cases called : work.callback <;> simp only [Owner.finish, called] at goes <;> cases goes
    rfl
  | _ => cases goes

theorem names_takeOver {request : Request} (goes : owner.takeOver later built request = .next next behind noted) :
    names behind ⊆ request.path :: owner.path?.toList := by
  cases owner <;> cases goes <;> simp [names]

end Owners

theorem names_of_turn (keyed : Keyed store)
    (chosen : turn? background store activity choice = some (.next next behind warnings)) {path : Path}
    (all : AllOf path (names activity)) :
    AllOf path (names behind) ∨ ∃ request left queued, activity = .refreshNext (request :: left) queued ∧
      choice = .proceed ∧ behind = .admitReparse { request } (.refreshing left queued) := by
  have rule := rule_of_turn chosen
  generalize same : Turn.next next behind warnings = turn at rule
  have nothing (none_named : names behind = []) : AllOf path (names behind) := fun other inside => by
    rw [none_named] at inside
    cases inside
  cases rule with
  | refreshNext request left queued =>
    cases same
    exact .inr ⟨request, left, queued, rfl, rfl, rfl⟩
  | present | record | spare | accepted | withdraw => exact .inl (nothing (names_give same.symm))
  | served | keep | noteFailure =>
    refine .inl (all.mono ?_)
    rw [names_afterBuild same.symm]
    simp [names]
  | findNothing | noteReparse | evict =>
    refine .inl (all.mono ?_)
    rw [names_afterRefresh same.symm]
    simp [names]
  | parsePanicked | refreshPanicked =>
    refine .inl (all.mono ?_)
    rw [names_afterPanic same.symm]
    simp [names, useNames]
  | settleAlone | settle => exact .inl (nothing (names_finish same.symm))
  | takeOver owner built place request owned given =>
    have here : (place == path) = true := all place (by simp [names, owned])
    have put : (request.path == place) = true := keyed.pending place request (settle_stale store place request given).1
    have both : AllOf path (request.path :: owner.path?.toList) :=
      List.forall_mem_cons.mpr ⟨BEq.trans put here, all⟩
    exact .inl (both.mono (names_takeOver same.symm))
  | find request owner handle found =>
    cases same
    have here : (request.path == path) = true := all request.path (by simp [names])
    exact .inl (List.forall_mem_cons.mpr ⟨BEq.trans (keyed.units _ handle found) here, all⟩)
  | ask query handle saved found =>
    cases same
    have here : (query.cursor.file.name == path) = true := all _ (by simp [names])
    exact .inl (List.forall_mem_cons.mpr ⟨BEq.trans (keyed.units _ handle found) here, by simp [useNames]⟩)
  | collect | reorder =>
    cases same
    exact .inl (nothing rfl)
  | stale | first | dropStale | parse | reparse | full | closed | replaced | absent | dropReplaced | build | parsed
  | parseFailed | acquire | refreshDone | refreshFailed | noteReparseFailed | noteReparseFailure =>
    cases same
    exact .inl (all.mono (by simp [names, useNames, Owner.path?]))
  | _ => cases same

section Owners

variable {later : Store α κ} {owner : Owner κ} {built : Option Handle} {noted : List Warning} {handle : Handle}

theorem handles_give {giving : Giving} {accepted : Bool}
    (goes : giving.give later accepted warnings = .next next behind noted) : behind.handles = [] := by
  cases giving <;> cases goes
  rfl

theorem handles_afterBuild (goes : owner.afterBuild later built warnings = .next next behind noted)
    (inside : handle ∈ behind.handles) : built = some handle := by
  cases owner <;> cases goes <;> cases built <;> simp_all [Activity.handles]

theorem handles_afterRefresh (goes : owner.afterRefresh later warnings = .next next behind noted) :
    behind.handles = [] := by
  cases owner <;> cases goes <;> rfl

theorem handles_afterPanic (goes : owner.afterPanic later = .next next behind noted) : behind.handles = [] := by
  cases owner <;> cases goes <;> rfl

theorem handles_finish (goes : owner.finish later built = .next next behind noted) : behind.handles = [] := by
  cases owner with
  | job work =>
    cases called : work.callback <;> simp only [Owner.finish, called] at goes <;> cases goes
    rfl
  | _ => cases goes

theorem handles_takeOver {request : Request} (goes : owner.takeOver later built request = .next next behind noted) :
    behind.handles ⊆ (Activity.settle owner built : Activity α κ).handles := by
  cases owner <;> cases goes <;> cases built <;> simp [Activity.handles]

end Owners

theorem handles_of_turn (chosen : turn? background store activity choice = some (.next next behind warnings))
    {handle : Handle} (inside : handle ∈ behind.handles) :
    handle ∈ activity.handles ∨ (∃ path, store.peek path = some handle) ∨
      ∃ request artifact owner, activity = .keep request artifact owner ∧ handle = (store.keep request artifact).1 := by
  have rule := rule_of_turn chosen
  generalize same : Turn.next next behind warnings = turn at rule
  have nothing (none_there : behind.handles = []) : handle ∈ activity.handles := by
    rw [none_there] at inside
    cases inside
  cases rule with
  | present | record | spare | accepted | withdraw => exact .inl (nothing (handles_give same.symm))
  | served request owner found there =>
    cases handles_afterBuild same.symm inside
    exact .inr (.inl ⟨_, there⟩)
  | noteFailure => cases handles_afterBuild same.symm inside
  | keep request artifact owner =>
    cases handles_afterBuild same.symm inside
    exact .inr (.inr ⟨request, artifact, owner, rfl, rfl⟩)
  | findNothing | noteReparse | evict => exact .inl (nothing (handles_afterRefresh same.symm))
  | parsePanicked | refreshPanicked => exact .inl (nothing (handles_afterPanic same.symm))
  | settleAlone | settle => exact .inl (nothing (handles_finish same.symm))
  | takeOver => exact .inl (handles_takeOver same.symm inside)
  | stale request found there | find request _ found there | ask query found _ there =>
    cases same
    cases List.mem_singleton.mp inside
    exact .inr (.inl ⟨_, there⟩)
  | collect | reorder | first | dropStale | parse | reparse | full | closed | replaced | absent | dropReplaced | build
  | parsed | parseFailed | acquire | refreshDone | refreshFailed | noteReparseFailed | noteReparseFailure | refreshNext =>
    cases same
    exact .inl inside
  | _ => cases same

end Turns

section Runs

variable {flags : ParseFlags} {capacity : Nat} {roles : List Role} {history : List (Moment α κ)} {system : System α κ}

theorem Run.working (run : Run flags capacity roles history system) {frame : Frame α κ} (inside : frame ∈ system.frames)
    {work : Job κ} (task : frame.task = .job work) :
    Working work (acts frame.number history) frame.activity := by
  have begun := run.started.1 frame inside
  rw [task] at begun
  cases run.running frame.number (.job work) begun with
  | goes_on activity there _ kept =>
    have same : frame = ⟨frame.number, .job work, activity⟩ := run.frame_eq inside there rfl
    rw [same]
    exact kept
  | finished gone => exact absurd (List.mem_map_of_mem inside) gone

theorem frame_of_move {next : System α κ} {move : Move α κ} (made : system.move? move = some next) {frame : Frame α κ}
    (inside : frame ∈ next.frames) :
    frame ∈ system.frames ∨ (∃ task activity, frame = ⟨system.clock, task, activity⟩ ∧ Begins task activity ∧
      Moment.begins? ⟨system, move⟩ = some (system.clock, task)) ∨
    ∃ act warnings, Moment.act? ⟨system, move⟩ = some act ∧ act.frame ∈ system.frames ∧
      act.turn? = some (.next next.store frame.activity warnings) ∧ frame.number = act.frame.number ∧
      frame.task = act.frame.task := by
  cases progress_of_move made with
  | acts act turn left others told old here turned went was is =>
    rcases left_or_beside is inside with rfl | other
    · cases turn <;> cases went
      exact .inr (.inr ⟨act, _, told, act_inside told, turned, rfl, rfl⟩)
    · exact .inl (was.symm.subset (List.mem_cons_of_mem _ other))
  | begins task activity idle told first is =>
    rcases List.mem_cons.mp (is.subset inside) with rfl | other
    · exact .inr (.inl ⟨task, activity, rfl, first, told⟩)
    · exact .inl other
  | rests _ _ is => exact .inl (is.subset inside)

theorem Begins.placed {task : Task κ} {activity : Activity α κ} (first : Begins task activity) {number : Nat} :
    Placed ⟨number, task, activity⟩ := by
  cases first with
  | operation operation =>
    cases operation with
    | refreshAll => exact ⟨⟨""⟩, by simp [Operation.activity, names, AllOf], by simp⟩
    | _ => exact ⟨_, List.forall_mem_singleton.mpr BEq.rfl, by simp⟩
  | job job =>
    refine ⟨job.request.path, ?_, by rintro _ ⟨⟩; rfl⟩
    unfold Activity.ofJob
    split <;> simp [names, AllOf, Owner.path?]
  | tick => exact ⟨⟨""⟩, by simp [names, AllOf], by simp⟩

/-- Whatever is in progress keeps to its path. -/
theorem Run.placed (run : Run flags capacity roles history system) : ∀ frame ∈ system.frames, Placed frame := by
  induction run with
  | start => simp [frames_start]
  | @move history system next move run made ih =>
    intro frame inside
    rcases frame_of_move made inside with before | ⟨task, activity, rfl, first, -⟩ |
      ⟨act, warnings, told, there, turned, -, task⟩
    · exact ih frame before
    · exact first.placed
    · obtain ⟨path, all, own⟩ := ih act.frame there
      have here := act_store told
      unfold Act.turn? at turned
      rw [here] at turned
      rcases names_of_turn run.sound.1.keyed turned all with same | ⟨request, left, queued, activity, -, behind⟩
      · exact ⟨path, same, by rwa [task]⟩
      · refine ⟨request.path, by simp [behind, names, AllOf], fun work job => ?_⟩
        have working := run.working there (task ▸ job)
        rw [activity] at working
        cases working with
        | works subjects => cases subjects

end Runs

section Parts

variable {path : Path} {frame : Frame α κ}

theorem Placed.names_of_on (placed : Placed frame) (on : frame.on path = true) : AllOf path (names frame.activity) := by
  obtain ⟨own, all, job⟩ := placed
  obtain ⟨place, known, same⟩ := (Option.any_eq_true _ _).mp on
  have its_own : (own == place) = true := by
    unfold Frame.place? at known
    split at known
    next work task =>
      rw [job work task, Option.some.inj known]
      exact BEq.rfl
    next => exact BEq.symm (all place (List.mem_of_mem_head? known))
  exact fun other inside => BEq.trans (BEq.trans (all other inside) its_own) (BEq.symm same)

theorem Placed.names_of_off (placed : Placed frame) (off : frame.on path = false) :
    ∀ other ∈ names frame.activity, (other == path) = false := by
  intro other inside
  obtain ⟨own, all, job⟩ := placed
  rw [Bool.eq_false_iff]
  intro here
  have on_own : (path == own) = true := BEq.trans (BEq.symm here) (all other inside)
  suffices on : frame.on path = true by
    rw [off] at on
    cases on
  refine (Option.any_eq_true _ _).mpr ?_
  unfold Frame.place?
  split
  next work task => exact ⟨_, rfl, job work task ▸ on_own⟩
  next =>
    obtain ⟨first, rest, known⟩ := List.exists_cons_of_ne_nil (List.ne_nil_of_mem inside)
    refine ⟨first, by rw [known]; rfl, BEq.trans on_own (BEq.symm (all first ?_))⟩
    rw [known]
    exact List.mem_cons_self

end Parts

def Made (history : List (Moment α κ)) (handle : Handle) : Prop :=
  (builds history)[handle.number]?.map Build.request = some handle.request

def Moment.passed (moment : Moment α κ) : List Handle :=
  match moment.move with
  | .thread _ (.call operation) => (operation.activity : Activity α κ).handles
  | _ => []

def Honest (history : List (Moment α κ)) : Prop :=
  ∀ earlier moment later, history = earlier ++ moment :: later → ∀ handle ∈ moment.passed, Made earlier handle

structure Handled (history : List (Moment α κ)) (system : System α κ) : Prop where
  frames : ∀ frame ∈ system.frames, ∀ handle ∈ frame.activity.handles, Made history handle
  guards : ∀ thread ∈ system.threads, ∀ handle ∈ thread.guards, Made history handle

section Runs

variable {flags : ParseFlags} {capacity : Nat} {roles : List Role} {history : List (Moment α κ)} {system : System α κ}

theorem Honest.of_append {moment : Moment α κ} (honest : Honest (history ++ [moment])) : Honest history := by
  rintro earlier other later rfl
  exact honest earlier other (later ++ [moment]) (by simp)

theorem Honest.last {moment : Moment α κ} (honest : Honest (history ++ [moment])) :
    ∀ handle ∈ moment.passed, Made history handle := honest history moment [] rfl

theorem passed_of_begins {move : Move α κ} {number : Nat} {task : Task κ} {activity : Activity α κ}
    (first : Begins task activity) (begun : Moment.begins? ⟨system, move⟩ = some (number, task)) :
    activity.handles ⊆ Moment.passed ⟨system, move⟩ := by
  cases first with
  | operation operation =>
    cases move with
    | thread index choice =>
      cases choice with
      | call other =>
        cases begun
        exact List.Subset.refl _
      | take =>
        obtain ⟨taken, _, same⟩ := Option.map_eq_some_iff.mp begun
        cases same
      | _ => cases begun
    | _ => cases begun
  | job job =>
    unfold Activity.ofJob
    split <;> exact List.nil_subset _
  | tick => exact List.nil_subset _

theorem handles_of_kept {frame : Frame α κ} {handle : Handle} (kept : frame.kept = some handle) :
    handle ∈ frame.activity.handles := by
  unfold Frame.kept at kept
  split at kept
  next =>
    cases kept
    exact List.mem_singleton.mpr rfl
  next => cases kept

theorem guards_of_move {next : System α κ} {move : Move α κ} (made : system.move? move = some next) {thread : Thread α κ}
    (inside : thread ∈ next.threads) {handle : Handle} (held : handle ∈ thread.guards) :
    (∃ before ∈ system.threads, handle ∈ before.guards) ∨ ∃ frame ∈ system.frames, frame.kept = some handle := by
  rcases move?_cases made with ⟨index, choice, before, later, rfl, found, acted, threads, _⟩ |
    ⟨rfl, _, threads, _⟩ | ⟨_, rfl, _, threads, _⟩ | ⟨rfl, _, threads, _⟩
  · rw [threads] at inside
    have there : before ∈ system.threads := List.mem_of_getElem? found
    rcases List.mem_or_eq_of_mem_set inside with old | rfl
    · exact .inl ⟨thread, old, held⟩
    · have acts := acts_of_act? acted
      generalize next.store = behind at acts
      cases acts with
      | calls | takes | ticks => exact .inl ⟨before, there, held⟩
      | releases => exact .inl ⟨before, there, List.mem_of_mem_erase held⟩
      | goesOn _ frame rest turn next left stack =>
        dsimp only at held
        split at held
        next =>
          rcases List.mem_append.mp held with own | old
          · refine .inr ⟨frame, List.mem_flatMap.mpr ⟨before, there, ?_⟩, by simpa using own⟩
            rw [stack]
            exact List.mem_cons_self
          · exact .inl ⟨before, there, old⟩
        next => exact .inl ⟨before, there, held⟩
  all_goals
    rw [threads] at inside
    exact .inl ⟨thread, inside, held⟩

theorem Run.handled (run : Run flags capacity roles history system) (honest : Honest history) :
    Handled history system := by
  induction run with
  | start =>
    refine ⟨by simp [frames_start], fun thread inside => ?_⟩
    obtain ⟨role, _, rfl⟩ := List.mem_map.mp inside
    simp
  | @move history system next move run made ih =>
    obtain ⟨frames, guards⟩ := ih honest.of_append
    refine ⟨fun frame inside handle its_own => ?_, fun thread inside handle its_own => ?_⟩
    · rcases frame_of_move made inside with before | ⟨task, activity, rfl, first, begun⟩ |
        ⟨act, warnings, told, there, turned, -, -⟩
      · exact builds_grow (frames frame before handle its_own)
      · exact builds_grow (honest.last handle (passed_of_begins first begun its_own))
      · have here := act_store told
        unfold Act.turn? at turned
        rw [here] at turned
        rcases handles_of_turn turned its_own with own | ⟨path, found⟩ | ⟨request, artifact, owner, keeps, rfl⟩
        · exact builds_grow (frames act.frame there handle own)
        · exact builds_grow (run.grounded.entries path handle found)
        · have build : act.build? = some ⟨act.frame.number, request, artifact⟩ := by rw [Act.build?, keeps]
          rw [Made, builds_append, told, Option.bind_some, build]
          simp [Store.keep, ← run.grounded.length]
    · refine builds_grow ?_
      rcases guards_of_move made inside its_own with ⟨before, there, held⟩ | ⟨frame, there, kept⟩
      · exact guards before there handle held
      · exact frames frame there handle (handles_of_kept kept)

end Runs

end UnitCache.Interleaving
