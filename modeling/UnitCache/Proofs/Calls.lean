import Mathlib.Data.List.Induction
import Mathlib.Data.List.TakeWhile
import UnitCache.Proofs.Course
/-!
What is wanted is built. Whoever is to build a request finds no unit that serves it, and puts the new unit into an empty
place; so nobody who is to build a request is spared the engine, and nobody calls it twice.
-/
namespace UnitCache.Interleaving

variable {α κ : Type}

/-- Whether the owner of a mark is done with what it had begun: it is given another request, or takes the mark off. -/
def Deed.settles : Deed → Bool
  | .tookOver .. | .cleared .. | .released => true
  | _ => false

def before (stops : Deed → Bool) (row : List (Nat × Deed)) : List (Nat × Deed) :=
  row.takeWhile fun pair => !stops pair.2

def Deed.begun? : Deed → Option Request
  | .first request | .taken request | .tookOver request _ true => some request
  | _ => none

def Deed.call? : Deed → Option Request
  | .called request => some request
  | _ => none

def calls (row : List (Nat × Deed)) : List (Nat × Request) := row.filterMap fun pair => pair.2.call?.map (pair.1, ·)

theorem calls_concat (row : List (Nat × Deed)) (number : Nat) (deed : Deed) :
    calls (row ++ [(number, deed)]) = calls row ++ (deed.call?.map (number, ·)).toList := by
  rw [calls, List.filterMap_append, ← calls]
  cases call : deed.call? <;> simp [call]

theorem calls_concat_silent (row : List (Nat × Deed)) (number : Nat) {deed : Deed} (silent : deed.call? = none) :
    calls (row ++ [(number, deed)]) = calls row := by
  rw [calls_concat, silent]
  exact List.append_nil _

theorem before_quiet {stops : Deed → Bool} {row : List (Nat × Deed)} {pair : Nat × Deed}
    (inside : pair ∈ before stops row) :
    stops pair.2 = false := by
  have passes := List.mem_takeWhile_imp inside
  simpa using passes

theorem before_append {stops : Deed → Bool} {row : List (Nat × Deed)} (whole : before stops row = row)
    (more : List (Nat × Deed)) : before stops (row ++ more) = row ++ before stops more :=
  List.takeWhile_append_of_pos (List.takeWhile_eq_self_iff.mp whole)

theorem before_append_cons {stops : Deed → Bool} {row rest : List (Nat × Deed)} {pair : Nat × Deed}
    (split : row = before stops row ++ pair :: rest) (stopped : stops pair.2 = true) (more : List (Nat × Deed)) :
    before stops (row ++ more) = before stops row := by
  have quiet : before stops (before stops row) = before stops row :=
    List.takeWhile_eq_self_iff.mpr fun pair inside => by simp [before_quiet inside]
  have cut : before stops (pair :: rest ++ more) = [] := List.takeWhile_cons_of_neg (by simp [stopped])
  calc
    before stops (row ++ more) = before stops (before stops row ++ (pair :: rest ++ more)) := by
      rw [← List.append_assoc, ← split]
    _ = before stops row := by rw [before_append quiet, cut, List.append_nil]

section Courses

variable {path : Path} {row earlier since : List (Nat × Deed)} {start : Nat × Deed} {held : View} {phase : Option Phase}

theorem Course.last {pair : Nat × Deed} (course : Course path (row ++ [pair]) held phase) :
    ∃ was first, Course path row was first ∧ Passage path (some pair) was first held phase := by
  generalize whole : row ++ [pair] = all at course
  cases course with
  | start => simp at whole
  | deed course passage =>
    obtain ⟨rfl, same⟩ := List.append_inj' whole rfl
    cases same
    exact ⟨_, _, course, passage⟩

/-- What holds behind a deed and is kept by all deeds up to the first of a kind holds up to there. -/
theorem Course.until (stops : Deed → Bool) (keeps : List (Nat × Deed) → View → Option Phase → Prop)
    (begins : ∀ {was next first later}, Course path earlier was first → Passage path (some start) was first next later →
      keeps [] next later)
    (goes_on : ∀ {row was next first later number deed}, Course path (earlier ++ start :: row) was first →
      keeps row was first → Passage path (some (number, deed)) was first next later → stops deed = false →
      keeps (row ++ [(number, deed)]) next later)
    (course : Course path (earlier ++ start :: since) held phase) :
    (before stops since = since ∧ keeps since held phase) ∨
    ∃ number deed rest was first next later, since = before stops since ++ (number, deed) :: rest ∧ stops deed = true ∧
      Course path (earlier ++ start :: before stops since) was first ∧ keeps (before stops since) was first ∧
      Passage path (some (number, deed)) was first next later := by
  -- The induction is on what was done since, from its end, as a course grows there.
  induction since using List.reverseRecOn generalizing held phase with
  | nil =>
    obtain ⟨was, first, course, passage⟩ := course.last
    exact .inl ⟨rfl, begins course passage⟩
  | append_singleton since pair ih =>
    obtain ⟨number, deed⟩ := pair
    rw [← List.cons_append, ← List.append_assoc] at course
    obtain ⟨was, first, course, passage⟩ := course.last
    rcases ih course with ⟨whole, kept⟩ | ⟨last, ended, rest, _, _, _, _, split, stopped, reached, kept, passed⟩
    · cases stopped : stops deed with
      | false =>
        refine .inl ⟨?_, goes_on course kept passage stopped⟩
        rw [before_append whole]
        simp [before, stopped]
      | true =>
        have cut : before stops (since ++ [(number, deed)]) = since := by
          rw [before_append whole]
          simp [before, stopped]
        rw [cut]
        exact .inr ⟨number, deed, [], _, _, _, _, rfl, stopped, course, kept, passage⟩
    · rw [before_append_cons split stopped]
      refine .inr ⟨last, ended, rest ++ [(number, deed)], _, _, _, _, ?_, stopped, reached, kept, passed⟩
      rw [← List.cons_append, ← List.append_assoc, ← split]

/-- What a path holds while its owner is to build a request: nothing that serves it, and nothing at all once the owner
has looked. -/
def Clear (held : View) : Option Phase → Prop
  | some (.wanted request _) => ∀ handle, held.entry = some handle → handle.request.serves request = false
  | some (.due ..) | some (.building ..) => held.entry = none
  | _ => True

theorem Clear.of_absent {next : View} (absent : next.entry = none) (phase : Option Phase) : Clear next phase := by
  cases phase with
  | none => trivial
  | some phase =>
    cases phase with
    | wanted =>
      intro handle found
      rw [absent] at found
      cases found
    | due | building => exact absent
    | _ => trivial

theorem Clear.congr {next : View} (clear : Clear held phase) (same : next.entry = held.entry) : Clear next phase := by
  cases phase with
  | none => trivial
  | some phase =>
    cases phase with
    | wanted => exact fun handle found => clear handle (same ▸ found)
    | due | building => exact same.trans clear
    | _ => trivial

theorem Course.clear (course : Course path row held phase) : Clear held phase := by
  induction course with
  | start => trivial
  | deed course passage ih =>
    cases passage with
    | own effect =>
      cases effect with
      | dropped | stocked => exact .of_absent rfl _
      | first _ _ _ absent | admitted _ _ _ absent => exact (Clear.of_absent absent _).congr rfl
      | tookOver _ _ _ _ stale => exact stale
      | hit | recorded | present | taken | called => exact ih
      | _ => trivial
    | aside effect phase =>
      cases effect with
      | dropped => exact .of_absent rfl _
      | _ => exact ih.congr rfl
    | discarded => trivial

theorem Course.marked_of_owned (course : Course path row held phase) : phase.isSome = true → held.marked = true := by
  induction course with
  | start => simp
  | deed course passage ih =>
    cases passage with
    | own effect =>
      cases effect with
      | first | admitted | refreshing => exact fun _ => rfl
      | cleared | released => simp
      | _ => exact ih
    | aside effect => exact fun owned => effect.marked_of_aside.trans (ih owned)
    | discarded => simp

def Phase.awaits : Phase → Bool
  | .wanted .. | .due .. => true
  | _ => false

/-- How far a frame is with a request that it is to build, by what was done since it was given it. -/
inductive Errand (number : Nat) (request : Request) (row : List (Nat × Deed)) (held : View) : Option Phase → Prop where
  | wanted (uncalled : calls row = []) : Errand number request row held (some (.wanted request (some number)))
  | due (uncalled : calls row = []) : Errand number request row held (some (.due request number))
  | called {phase : Option Phase} (once : calls row = [(number, request)]) (marked : held.marked = true)
      (asked : phase.any Phase.awaits = false) : Errand number request row held phase

/-- What is done by others than the owner of a mark calls nobody and settles nothing. -/
theorem Effect.aside_silent {number : Nat} {deed : Deed} {next : View}
    (effect : Effect number path (some deed) held none next none) : deed.call? = none ∧ deed.settles = false := by
  cases effect <;> exact ⟨rfl, rfl⟩

theorem Errand.congr {number : Nat} {request : Request} {more : List (Nat × Deed)} {next : View}
    (errand : Errand number request row held phase) (silent : calls more = calls row)
    (same : next.marked = held.marked) : Errand number request more next phase := by
  cases errand with
  | wanted uncalled => exact .wanted (silent.trans uncalled)
  | due uncalled => exact .due (silent.trans uncalled)
  | called once marked asked => exact .called (silent.trans once) (same.trans marked) asked

theorem Errand.step {number other : Nat} {request : Request} {deed : Deed} {next : View} {later : Option Phase}
    (clear : Clear held phase) (owned : phase.isSome = true → held.marked = true)
    (errand : Errand number request row held phase)
    (passage : Passage path (some (other, deed)) held phase next later) (goes_on : deed.settles = false) :
    Errand number request (row ++ [(other, deed)]) next later := by
  have quiet (silent : deed.call? = none) : calls (row ++ [(other, deed)]) = calls row :=
    calls_concat_silent row other silent
  cases passage with
  | aside effect => exact errand.congr (quiet effect.aside_silent.1) effect.marked_of_aside
  | own effect =>
    cases errand with
    | wanted uncalled =>
      cases effect with
      | served _ _ handle found fits =>
        rw [clear handle found] at fits
        cases fits
      | stocked => exact .due ((quiet rfl).trans uncalled)
      | refused _ _ waits => rcases waits with same | ⟨_, same⟩ <;> cases same
      | panicked _ _ asked => rcases asked with same | ⟨_, same⟩ <;> cases same
    | due uncalled =>
      cases effect with
      | called =>
        refine .called ?_ (owned rfl) rfl
        rw [calls_concat, uncalled]
        rfl
      | refused _ _ waits => rcases waits with same | ⟨_, same⟩ <;> cases same
      | panicked _ _ asked => rcases asked with same | ⟨_, same⟩ <;> cases same
    | called once marked asked =>
      cases effect with
      | hit | dropped | recorded | present | kept | failed | panicked | refused | refreshFailed | evicted =>
        exact .called ((quiet rfl).trans once) marked rfl
      | first _ _ _ _ free | admitted _ _ _ _ free | refreshing _ _ free =>
        rw [free] at marked
        cases marked
      | taken | served | stocked | called => cases asked
      | tookOver | cleared | released => cases goes_on
  | discarded _ _ _ waits =>
    cases errand with
    | wanted | due => rcases waits with same | ⟨_, same⟩ <;> cases same
    | called once marked asked => exact .called ((quiet rfl).trans once) marked rfl

theorem Errand.of_begun {number : Nat} {request : Request} {deed : Deed} {next : View} {later : Option Phase}
    (begun : deed.begun? = some request) (passage : Passage path (some (number, deed)) held phase next later) :
    Errand number request [] next later := by
  cases passage with
  | own effect =>
    cases effect with
    | first => cases begun; exact .due rfl
    | taken => cases begun; exact .wanted rfl
    | tookOver _ _ byJob => cases byJob <;> cases begun; exact .wanted rfl
    | _ => cases begun
  | aside effect => cases effect <;> cases begun
  | discarded => cases begun

theorem Errand.settled {number other : Nat} {request : Request} {deed : Deed} {next : View} {later : Option Phase}
    (errand : Errand number request row held phase)
    (passage : Passage path (some (other, deed)) held phase next later) (settles : deed.settles = true) :
    calls row = [(number, request)] := by
  cases errand with
  | called once => exact once
  | wanted | due =>
    cases passage with
    | own effect => cases effect <;> cases settles
    | aside effect =>
      rw [effect.aside_silent.2] at settles
      cases settles
    | discarded => cases settles

theorem Course.errand {number : Nat} {request : Request} {deed : Deed} (begun : deed.begun? = some request)
    (course : Course path (earlier ++ (number, deed) :: since) held phase) :
    before Deed.settles since = since ∧ Errand number request since held phase ∨
      calls (before Deed.settles since) = [(number, request)] := by
  have reached := course.until Deed.settles (Errand number request) (fun _ passage => .of_begun begun passage)
    (fun course errand passage goes_on => errand.step course.clear course.marked_of_owned passage goes_on)
  rcases reached with going | ⟨_, _, _, _, _, _, _, _, settles, _, errand, passage⟩
  · exact .inl going
  · exact .inr (errand.settled passage settles)

end Courses

/-- Whether a frame is on the way to have the engine build a request. -/
def Frame.Heads (frame : Frame α κ) (request : Request) : Prop :=
  ∃ owner, frame.activity = .load request owner ∨ frame.activity = .dropReplaced request owner ∨
    frame.activity = .build request owner

def Frame.Does (frame : Frame α κ) : Phase → Prop
  | .wanted request (some number) => frame.number = number ∧ ∃ owner, frame.activity = .load request owner
  | .wanted request none =>
    ∃ job giving, frame.activity = .enqueue job giving ∧ job.kind = .parse ∧ job.request = request
  | .due request number =>
    frame.number = number ∧ ∃ owner, frame.activity = .dropReplaced request owner ∨ frame.activity = .build request owner
  | .leaving number =>
    frame.number = number ∧ ∃ path, frame.activity = .unwind path ∨ ∃ giving, frame.activity = .withdraw path giving
  | _ => True

theorem Frame.does_of_stake {frame : Frame α κ} {path : Path} {phase : Phase}
    (stake : frame.stake? = some (path, phase)) :
    frame.Does phase := by
  have owned {owner : Owner κ} {other : Phase} (known : owner.path?.map (·, other) = some (path, phase)) :
      other = phase := by
    obtain ⟨_, _, same⟩ := Option.map_eq_some_iff.mp known
    cases same
    rfl
  obtain ⟨number, task, activity⟩ := frame
  cases activity with
  | load request owner =>
    cases owned stake
    exact ⟨rfl, owner, rfl⟩
  | dropReplaced request owner =>
    cases owned stake
    exact ⟨rfl, owner, .inl rfl⟩
  | build request owner =>
    cases owned stake
    exact ⟨rfl, owner, .inr rfl⟩
  | enqueue job giving =>
    cases kind : job.kind <;> simp only [Frame.stake?, jobStake, kind] at stake <;> cases stake
    · exact ⟨job, giving, rfl, kind, rfl⟩
    · trivial
  | withdraw marked giving =>
    cases stake
    exact ⟨rfl, _, .inr ⟨giving, rfl⟩⟩
  | unwind =>
    cases stake
    exact ⟨rfl, _, .inl rfl⟩
  | parsing | keep | noteFailure | settle | find | noteReparseFailure | evict =>
    cases owned stake
    trivial
  | noteReparse _ _ failure => cases failure <;> cases owned stake <;> trivial
  | acquire _ use | «using» _ use =>
    cases use with
    | refresh => cases owned stake; trivial
    | _ => cases stake
  | _ => cases stake

section Runs

variable {flags : ParseFlags} {capacity : Nat} {roles : List Role} {history : List (Moment α κ)} {system : System α κ}

theorem stake_of_phase {path : Path} {phase : Phase} (known : system.phase? path = some phase) :
    (∃ job ∈ system.store.queue.jobs, (jobStake job).2 = phase) ∨
      ∃ frame ∈ system.frames, ∃ other, frame.stake? = some (other, phase) := by
  have inside : phase ∈ system.phases path := List.mem_of_mem_head? known
  obtain ⟨stake, told, here⟩ := List.mem_filterMap.mp inside
  have same : stake.2 = phase := by
    by_cases same : (stake.1 == path) = true
    · rw [onPath_same _ same] at here
      exact Option.some.inj here
    · rw [onPath_apart _ (by simpa using same)] at here
      cases here
  rcases List.mem_append.mp told with queued | owned
  · obtain ⟨job, waits, rfl⟩ := List.mem_map.mp queued
    exact .inl ⟨job, waits, same⟩
  · obtain ⟨frame, there, stake?⟩ := List.mem_filterMap.mp owned
    subst same
    exact .inr ⟨frame, there, stake.1, stake?⟩

theorem frame_of_phase {path : Path} {phase : Phase} (known : system.phase? path = some phase)
    (framed : phase.framed = true) : ∃ frame ∈ system.frames, frame.Does phase := by
  rcases stake_of_phase known with ⟨job, _, rfl⟩ | ⟨frame, inside, _, stake⟩
  · rw [jobStake_framed] at framed
    cases framed
  · exact ⟨frame, inside, Frame.does_of_stake stake⟩

theorem stake_of_frame {frame : Frame α κ} {path : Path} {phase : Phase} (inside : frame ∈ system.frames)
    (stake : frame.stake? = some (path, phase)) : (path, phase) ∈ system.stakes :=
  List.mem_append_right _ (List.mem_filterMap.mpr ⟨frame, inside, stake⟩)

theorem Run.phase_of_told (run : Run flags capacity roles history system) {path other : Path} {phase : Phase}
    (told : (other, phase) ∈ system.stakes) (same : (other == path) = true) : system.phase? path = some phase := by
  have owned : phase ∈ system.phases path := List.mem_filterMap.mpr ⟨_, told, onPath_same phase same⟩
  rw [System.phase?]
  rcases short_cases (run.sound.2.single path) with nobody | ⟨first, alone⟩
  · rw [nobody] at owned
    cases owned
  · rw [alone] at owned ⊢
    rw [List.mem_singleton.mp owned]
    rfl

theorem Run.phase_of_stake (run : Run flags capacity roles history system) {frame : Frame α κ}
    (inside : frame ∈ system.frames) {path other : Path} {phase : Phase} (stake : frame.stake? = some (other, phase))
    (same : (other == path) = true) : system.phase? path = some phase :=
  run.phase_of_told (stake_of_frame inside stake) same

theorem Run.clear (run : Run flags capacity roles history system) {frame : Frame α κ} (inside : frame ∈ system.frames)
    {path other : Path} {phase : Phase} (stake : frame.stake? = some (other, phase)) (same : (path == other) = true) :
    Clear (view system.store path) (some phase) := by
  rw [← run.phase_of_stake inside stake (BEq.symm same)]
  exact (run.course path).clear

/-- A unit is put into the cache only where none is, and who is to build a request finds no unit that serves it. Whoever
is given a request to build, as a client that comes first, with a job or with the request put down, has the engine build
that very request, and this once, before it settles; until then it is on the way there. -/
theorem builds_are_never_spared (run : Run flags capacity roles history system) :
    (∀ frame ∈ system.frames, ∀ request artifact owner, frame.activity = .keep request artifact owner →
      system.store.peek request.path = none) ∧
    (∀ frame ∈ system.frames, ∀ request owner, frame.activity = .load request owner →
      ∀ handle, system.store.peek request.path = some handle → handle.request.serves request = false) ∧
    (∀ path earlier since number deed request, deeds path history = earlier ++ (number, deed) :: since →
      deed.begun? = some request →
      calls (before Deed.settles since) = [(number, request)] ∨
      (before Deed.settles since = since ∧ calls since = [] ∧
        ∃ frame ∈ system.frames, frame.number = number ∧ frame.Heads request)) := by
  refine ⟨?_, ?_, ?_⟩
  · intro frame inside request artifact owner activity
    obtain ⟨path, owned, same⟩ := run.sound.1.fits frame inside owner [request.path] (by rw [activity]; rfl)
    have stake : frame.stake? = some (path, .building request frame.number) := by simp [Frame.stake?, activity, owned]
    exact run.clear inside stake (same _ (List.mem_singleton.mpr rfl))
  · intro frame inside request owner activity
    obtain ⟨path, owned, same⟩ := run.sound.1.fits frame inside owner [request.path] (by rw [activity]; rfl)
    have stake : frame.stake? = some (path, .wanted request (some frame.number)) := by
      simp [Frame.stake?, activity, owned]
    exact run.clear inside stake (same _ (List.mem_singleton.mpr rfl))
  · intro path earlier since number deed request split begun
    have course := run.course path
    rw [split] at course
    rcases course.errand begun with ⟨whole, errand⟩ | once
    · generalize known : system.phase? path = phase at errand
      cases errand with
      | wanted uncalled =>
        obtain ⟨frame, inside, does⟩ := frame_of_phase known rfl
        exact .inr ⟨whole, uncalled, frame, inside, does.1, does.2.imp fun _ loads => .inl loads⟩
      | due uncalled =>
        obtain ⟨frame, inside, does⟩ := frame_of_phase known rfl
        exact .inr ⟨whole, uncalled, frame, inside, does.1, does.2.imp fun _ builds => .inr builds⟩
      | called once =>
        rw [whole]
        exact .inl once
    · exact .inl once

end Runs

def rebuildQueued : List (Move Unit Unit) :=
  [.thread 0 (.call (.getUnit ⟨⟨"a.c"⟩, ["-O2"], none⟩)), .thread 0 .proceed, .thread 0 .proceed,
    .thread 1 (.call (.getUnit ⟨⟨"a.c"⟩, ["-O3"], none⟩)), .thread 1 .proceed,
    .thread 0 (.parsed (.ok ())), .thread 0 .proceed, .thread 0 .proceed, .thread 0 .proceed]

def rebuiltByWorker : List (Move Unit Unit) :=
  rebuildQueued ++ [.thread 2 .take, .thread 2 .proceed, .thread 2 .proceed, .thread 2 .proceed]

theorem rebuild_is_not_spared :
    ∃ (history : List (Moment Unit Unit)) (system : System Unit Unit) (since : List (Nat × Deed)),
      Run ⟨0⟩ 1 [.client, .client, .worker] history system ∧
      deeds ⟨"a.c"⟩ history = deeds ⟨"a.c"⟩ (history.take 9) ++ (9, .taken ⟨⟨"a.c"⟩, ["-O3"], none⟩) :: since ∧
      (calls (before Deed.settles since) = [(9, ⟨⟨"a.c"⟩, ["-O3"], none⟩)] ∨
        (before Deed.settles since = since ∧ calls since = [] ∧
          ∃ frame ∈ system.frames, frame.number = 9 ∧ frame.Heads ⟨⟨"a.c"⟩, ["-O3"], none⟩)) := by
  obtain ⟨history, system, run, checked⟩ := Run.of_follow ⟨0⟩ 1 [.client, .client, .worker] rebuiltByWorker
    (fun history _ => deeds ⟨"a.c"⟩ history == deeds ⟨"a.c"⟩ (history.take 9) ++
      [(9, .taken ⟨⟨"a.c"⟩, ["-O3"], none⟩), (9, .stocked), (9, .called ⟨⟨"a.c"⟩, ["-O3"], none⟩)]) (by decide)
  have split := eq_of_beq checked
  exact ⟨history, system, _, run, split, (builds_are_never_spared run).2.2 _ _ _ _ _ _ split rfl⟩

end UnitCache.Interleaving
