import UnitCache.Proofs.Calls
import UnitCache.Proofs.Marks
/-!
What becomes of the requests that are put down. None is lost: it stays where it was put until another one takes its
place, or the owner of the mark finds it served, or is given it to build, or has to let go of the mark.
-/
namespace UnitCache.Interleaving

variable {α κ : Type}

def Deed.touches : Deed → Bool
  | .recorded _ => true
  | deed => deed.settles

def after (stops : Deed → Bool) (row : List (Nat × Deed)) : List (Nat × Deed) :=
  row.dropWhile fun pair => !stops pair.2

/-- What a deed makes of what is put down for a path and of its mark. -/
def Told : Option (Nat × Deed) → View → View → Prop
  | none, was, next => next = was
  | some (_, .recorded request), was, next => was.marked = true ∧ next = { was with pending := some request }
  | some (_, .tookOver request entry _), was, next =>
    was.pending = some request ∧ was.entry = entry ∧ was.marked = true ∧ next = { was with pending := none }
  | some (_, .cleared found entry), was, next =>
    was.pending = found ∧ was.entry = entry ∧ next = { was with marked := false, pending := none }
  | some (_, .released), was, next => next = { was with marked := false, pending := none }
  | some _, was, next => next.pending = was.pending

def System.Owes (system : System α κ) (request : Request) : Prop :=
  (∃ job ∈ system.store.queue.jobs, job.kind = .parse ∧ job.request = request) ∨
  ∃ frame ∈ system.frames, frame.Heads request ∨
    ∃ job giving, frame.activity = .enqueue job giving ∧ job.kind = .parse ∧ job.request = request

/-- What has become of a request that the frame of a number was given as it settled; `rest` is what was done since. The
engine was asked to build it, once, by that frame if it is of a job, or else by that of the job queued for it; or this is
still owed; or that job was refused, and the request is gone with the mark, or about to go. -/
def Given (system : System α κ) (request : Request) (number : Nat) (byJob : Bool) (rest : List (Nat × Deed)) : Prop :=
  let row := before Deed.settles rest
  match calls row, after Deed.settles rest with
  | [(frame, built)], _ => built = request ∧ if byJob then frame = number else (frame, .taken request) ∈ row
  | [], [] =>
    system.Owes request ∨
      ∃ frame ∈ system.frames, frame.Does (.leaving frame.number) ∧ byJob = false ∧ (frame.number, .refused) ∈ row
  | [], (frame, .released) :: _ => byJob = false ∧ (frame, .refused) ∈ row
  | _, _ => False

/-- Whether a frame has let go of a mark since its job was refused or the engine has panicked, at the end of what was
done. -/
def Failed (frame : Nat) (row : List (Nat × Deed)) : Prop :=
  ∃ earlier cause since, row = earlier ++ (frame, cause) :: since ∧ (cause = .refused ∨ cause = .panicked) ∧
    ∀ pair ∈ since, pair.2.settles = false

/-- What has become of a request put down for a path. It is still there; or another one was put down in its place; or
the owner of the mark has found it served, or was given it since it was not; or its owner had to let go of the mark.
`earlier` is what was done up to the putting down, and `since` what was done from then on. -/
def Fate (system : System α κ) (path : Path) (request : Request) (earlier since : List (Nat × Deed)) : Prop :=
  match after Deed.touches since with
  | [] => system.store.pending.get? path = some request
  | (_, .recorded _) :: _ => True
  | (_, .cleared found entry) :: _ =>
    found = some request ∧ ∃ handle, entry = some handle ∧ handle.request.serves request = true
  | (number, .tookOver given entry byJob) :: rest =>
    given = request ∧ (∀ handle, entry = some handle → handle.request.serves request = false) ∧
      Given system request number byJob rest
  | (number, .released) :: _ => Failed number (earlier ++ before Deed.touches since)
  | _ => False

theorem after_of_split {stops : Deed → Bool} {row rest : List (Nat × Deed)} (split : row = before stops row ++ rest) :
    after stops row = rest := by
  have whole : row = before stops row ++ after stops row := (List.takeWhile_append_dropWhile).symm
  exact List.append_cancel_left (whole.symm.trans split)

section Courses

variable {path : Path} {row earlier since : List (Nat × Deed)} {held : View} {phase : Option Phase}

/-- Who lets go of a mark was refused, or has seen the engine panic. -/
theorem Course.failed {frame : Nat} (course : Course path row held phase) (leaves : phase = some (.leaving frame)) :
    Failed frame row := by
  induction course with
  | start => cases leaves
  | @deed earlier _ _ _ _ number deed course passage ih =>
    have longer (known : Failed frame earlier) (quiet : deed.settles = false) :
        Failed frame (earlier ++ [(number, deed)]) := by
      obtain ⟨first, cause, since, rfl, failed, none_settled⟩ := known
      refine ⟨first, cause, since ++ [(number, deed)], by simp, failed, ?_⟩
      intro pair inside
      rcases List.mem_append.mp inside with inside | inside
      · exact none_settled pair inside
      · rw [List.mem_singleton.mp inside]
        exact quiet
    subst leaves
    cases passage with
    | own effect =>
      cases effect with
      | refused => exact ⟨_, .refused, [], rfl, .inl rfl, by simp⟩
      | panicked => exact ⟨_, .panicked, [], rfl, .inr rfl, by simp⟩
    | aside effect => exact longer (ih rfl) effect.aside_silent.2

/-- How far a request is that the frame of a number was given as it settled, by what was done since: its job waits, or
was refused, or a frame has it to build. -/
inductive Handover (request : Request) (number : Nat) (byJob : Bool) (row : List (Nat × Deed)) (held : View) :
    Option Phase → Prop where
  | waiting (left : byJob = false) (uncalled : calls row = []) :
      Handover request number byJob row held (some (.wanted request none))
  | refused (frame : Nat) (left : byJob = false) (uncalled : calls row = []) (told : (frame, .refused) ∈ row) :
      Handover request number byJob row held (some (.leaving frame))
  | errand {phase : Option Phase} (frame : Nat) (whose : if byJob then frame = number else (frame, .taken request) ∈ row)
      (errand : Errand frame request row held phase) : Handover request number byJob row held phase

variable {request : Request} {number other : Nat} {byJob : Bool} {deed : Deed} {next : View} {later : Option Phase}

theorem Handover.of_given {entry : Option Handle}
    (passage : Passage path (some (number, .tookOver request entry byJob)) held phase next later) :
    Handover request number byJob [] next later := by
  cases passage with
  | own effect =>
    cases effect with
    | tookOver =>
      cases byJob with
      | true => exact .errand number rfl (.wanted rfl)
      | false => exact .waiting rfl rfl
  | aside effect => cases effect

theorem Handover.step (clear : Clear held phase) (owned : phase.isSome = true → held.marked = true)
    (handover : Handover request number byJob row held phase)
    (passage : Passage path (some (other, deed)) held phase next later) (goes_on : deed.settles = false)
    (kept : deed ≠ .discarded) : Handover request number byJob (row ++ [(other, deed)]) next later := by
  have quiet (silent : deed.call? = none) : calls (row ++ [(other, deed)]) = calls row :=
    calls_concat_silent row other silent
  cases handover with
  | errand frame whose errand =>
    refine .errand frame ?_ (errand.step clear owned passage goes_on)
    cases byJob with
    | true => exact whose
    | false => exact List.mem_append_left _ whose
  | waiting left uncalled =>
    cases passage with
    | own effect =>
      cases effect with
      | refused =>
        exact .refused other left ((quiet rfl).trans uncalled) (List.mem_append_right _ (List.mem_singleton.mpr rfl))
      | taken =>
        refine .errand other ?_ (.wanted ((quiet rfl).trans uncalled))
        rw [left]
        exact List.mem_append_right _ (List.mem_singleton.mpr rfl)
      | panicked _ _ asked => rcases asked with same | ⟨_, same⟩ <;> cases same
    | aside effect => exact .waiting left ((quiet effect.aside_silent.1).trans uncalled)
    | discarded => exact absurd rfl kept
  | refused frame left uncalled told =>
    cases passage with
    | own effect =>
      cases effect with
      | refused _ _ waits => rcases waits with same | ⟨_, same⟩ <;> cases same
      | panicked _ _ asked => rcases asked with same | ⟨_, same⟩ <;> cases same
      | released => cases goes_on
    | aside effect =>
      exact .refused frame left ((quiet effect.aside_silent.1).trans uncalled) (List.mem_append_left _ told)
    | discarded => exact absurd rfl kept

theorem Handover.settled (handover : Handover request number byJob row held phase)
    (passage : Passage path (some (other, deed)) held phase next later) (settles : deed.settles = true) :
    (∃ frame, calls row = [(frame, request)] ∧ if byJob then frame = number else (frame, .taken request) ∈ row) ∨
      (calls row = [] ∧ deed = .released ∧ byJob = false ∧ (other, .refused) ∈ row) := by
  cases handover with
  | errand frame whose errand => exact .inl ⟨frame, errand.settled passage settles, whose⟩
  | waiting left uncalled =>
    cases passage with
    | own effect => cases effect <;> cases settles
    | aside effect =>
      rw [effect.aside_silent.2] at settles
      cases settles
    | discarded => cases settles
  | refused frame left uncalled told =>
    cases passage with
    | own effect =>
      cases effect with
      | released => exact .inr ⟨uncalled, rfl, left, told⟩
      | _ => cases settles
    | aside effect =>
      rw [effect.aside_silent.2] at settles
      cases settles
    | discarded => cases settles

/-- A request that was given is built, or owed, or gone with a refused job. -/
theorem Course.handover {entry : Option Handle} (kept : ∀ number, (number, Deed.discarded) ∉ since)
    (course : Course path (earlier ++ (number, .tookOver request entry byJob) :: since) held phase) :
    (before Deed.settles since = since ∧ Handover request number byJob since held phase) ∨
    (∃ frame, calls (before Deed.settles since) = [(frame, request)] ∧
      if byJob then frame = number else (frame, .taken request) ∈ before Deed.settles since) ∨
    (∃ frame more, since = before Deed.settles since ++ (frame, .released) :: more ∧ byJob = false ∧
      calls (before Deed.settles since) = [] ∧ (frame, .refused) ∈ before Deed.settles since) := by
  have reached := course.until Deed.settles
    (fun row held phase => (∀ number, (number, Deed.discarded) ∉ row) → Handover request number byJob row held phase)
    (fun _ passage _ => .of_given passage)
    (fun {row was _ first _ frame deed} course handover passage goes_on none_lost => by
      have earlier_kept (number : Nat) (inside : (number, Deed.discarded) ∈ row) : False :=
        none_lost number (List.mem_append_left _ inside)
      refine (handover earlier_kept).step course.clear course.marked_of_owned passage goes_on ?_
      rintro rfl
      exact none_lost frame (List.mem_append_right _ (List.mem_singleton.mpr rfl)))
  rcases reached with ⟨whole, handover⟩ | ⟨frame, deed, more, _, _, _, _, split, settles, _, handover, passage⟩
  · exact .inl ⟨whole, handover kept⟩
  · have none_lost (number : Nat) (inside : (number, Deed.discarded) ∈ before Deed.settles since) : False :=
      kept number ((List.takeWhile_sublist _).subset inside)
    rcases (handover none_lost).settled passage settles with built | ⟨uncalled, rfl, left, refused⟩
    · exact .inr (.inl built)
    · exact .inr (.inr ⟨frame, more, split, left, uncalled, refused⟩)

theorem Passage.told {done : Option (Nat × Deed)} (passage : Passage path done held phase next later)
    (owned : phase.isSome = true → held.marked = true) : Told done held next := by
  cases passage with
  | still => rfl
  | own effect =>
    cases effect with
    | recorded _ _ _ _ marked => exact ⟨marked, rfl⟩
    | tookOver _ _ _ put => exact ⟨put, rfl, owned rfl, rfl⟩
    | cleared => exact ⟨rfl, rfl, rfl⟩
    | _ => rfl
  | aside effect =>
    cases effect with
    | recorded _ _ _ _ marked => exact ⟨marked, rfl⟩
    | _ => rfl
  | discarded => rfl

theorem Passage.keeps_pending (passage : Passage path (some (number, deed)) held phase next later)
    (quiet : deed.touches = false) : next.pending = held.pending := by
  cases passage with
  | own effect => cases effect <;> first | rfl | cases quiet
  | aside effect => cases effect <;> first | rfl | cases quiet
  | discarded => rfl

theorem Course.pending_until {start : Nat × Deed} {put : Option Request}
    (begins : ∀ {was next first later}, Passage path (some start) was first next later → next.pending = put)
    (course : Course path (earlier ++ start :: since) held phase) :
    (before Deed.touches since = since ∧ held.pending = put) ∨
    ∃ frame deed rest was first next later, since = before Deed.touches since ++ (frame, deed) :: rest ∧
      deed.touches = true ∧ Course path (earlier ++ start :: before Deed.touches since) was first ∧
      was.pending = put ∧ Passage path (some (frame, deed)) was first next later :=
  course.until Deed.touches (fun _ held _ => held.pending = put) (fun _ passage => begins passage)
    (fun _ kept passage quiet => (passage.keeps_pending quiet).trans kept)

theorem Course.recorded (course : Course path (earlier ++ (number, .recorded request) :: since) held phase) :
    (before Deed.touches since = since ∧ held.pending = some request) ∨
    ∃ frame deed rest was first next later, since = before Deed.touches since ++ (frame, deed) :: rest ∧
      deed.touches = true ∧ Course path (earlier ++ (number, .recorded request) :: before Deed.touches since) was first ∧
      was.pending = some request ∧ Passage path (some (frame, deed)) was first next later :=
  course.pending_until fun passage => by
    cases passage with
    | own effect => cases effect; rfl
    | aside effect => cases effect; rfl

end Courses

section Runs

variable {flags : ParseFlags} {capacity : Nat} {roles : List Role} {history : List (Moment α κ)} {system : System α κ}

theorem Run.reached (run : Run flags capacity roles history system) {moment : Moment α κ} (inside : moment ∈ history) :
    ∃ earlier, Run flags capacity roles earlier moment.system := by
  induction run with
  | start => cases inside
  | move run _ ih =>
    rcases List.mem_append.mp inside with inside | inside
    · exact ih inside
    · rw [List.mem_singleton.mp inside]
      exact ⟨_, run⟩

theorem owes_of_waiting {path : Path} {request : Request} (known : system.phase? path = some (.wanted request none)) :
    system.Owes request := by
  rcases stake_of_phase known with ⟨job, inside, same⟩ | ⟨frame, inside, _, stake⟩
  · cases kind : job.kind <;> simp only [jobStake, kind] at same <;> cases same
    exact .inl ⟨job, inside, kind, rfl⟩
  · exact .inr ⟨frame, inside, .inr (Frame.does_of_stake stake)⟩

theorem owes_of_errand {path : Path} {frame : Nat} {request : Request} {row : List (Nat × Deed)}
    (errand : Errand frame request row (view system.store path) (system.phase? path)) :
    calls row = [(frame, request)] ∨ (calls row = [] ∧ system.Owes request) := by
  generalize known : system.phase? path = phase at errand
  cases errand with
  | called once => exact .inl once
  | wanted uncalled =>
    obtain ⟨owner, inside, _, loads⟩ := frame_of_phase known rfl
    exact .inr ⟨uncalled, .inr ⟨owner, inside, .inl (loads.imp fun _ => .inl)⟩⟩
  | due uncalled =>
    obtain ⟨owner, inside, _, builds⟩ := frame_of_phase known rfl
    exact .inr ⟨uncalled, .inr ⟨owner, inside, .inl (builds.imp fun _ => .inr)⟩⟩

theorem Run.given (run : Run flags capacity roles history system) (alive : system.stopping = false) {path : Path}
    {earlier since : List (Nat × Deed)} {number : Nat} {request : Request} {entry : Option Handle} {byJob : Bool}
    (split : deeds path history = earlier ++ (number, .tookOver request entry byJob) :: since) :
    Given system request number byJob since := by
  have course := run.course path
  have kept (frame : Nat) (inside : (frame, Deed.discarded) ∈ since) : False := by
    refine run.keeps_jobs alive path frame ?_
    rw [split]
    exact List.mem_append_right _ (List.mem_cons_of_mem _ inside)
  rw [split] at course
  rcases course.handover kept with ⟨whole, handover⟩ | ⟨frame, once, whose⟩ |
    ⟨frame, more, cut, left, uncalled, refused⟩
  · have done : after Deed.settles since = [] := after_of_split (by rw [whole, List.append_nil])
    generalize known : system.phase? path = phase at handover
    cases handover with
    -- Nobody has settled since, so how far the request is shows in the system as it stands.
    | waiting left uncalled =>
      simp only [Given, whole, uncalled, done]
      exact .inl (owes_of_waiting known)
    | refused frame left uncalled told =>
      simp only [Given, whole, uncalled, done]
      obtain ⟨owner, inside, rfl, leaves⟩ := frame_of_phase known rfl
      exact .inr ⟨owner, inside, ⟨rfl, leaves⟩, left, told⟩
    | errand frame whose errand =>
      rw [← known] at errand
      rcases owes_of_errand errand with once | ⟨uncalled, owes⟩
      · simp only [Given, whole, once]
        exact ⟨trivial, whose⟩
      · simp only [Given, whole, uncalled, done]
        exact .inl owes
  · simp only [Given, once]
    exact ⟨trivial, whose⟩
  · simp only [Given, uncalled, after_of_split cut]
    exact ⟨left, refused⟩

/-- As long as the cache is not given up, no request that was put down for a path is lost. What is put down changes only
where a request is put down, and where the owner of the mark settles or lets go of it: the owner keeps the mark if it is
given the request, and else takes it off at the same go. -/
theorem recorded_requests_are_not_lost (run : Run flags capacity roles history system) (alive : system.stopping = false)
    (path : Path) :
    (∀ moment ∈ history, ∀ next, moment.system.move? moment.move = some next →
      Told (moment.at? path) (view moment.system.store path) (view next.store path)) ∧
    ∀ earlier since number request, deeds path history = earlier ++ (number, .recorded request) :: since →
      Fate system path request (earlier ++ [(number, .recorded request)]) since := by
  refine ⟨?_, ?_⟩
  · intro moment inside next made
    obtain ⟨_, reached⟩ := run.reached inside
    exact (passage_of_move reached.sound.1 reached.sound.2 made path).told (reached.course path).marked_of_owned
  · intro earlier since number request split
    have course := run.course path
    rw [split] at course
    rcases course.recorded with
      ⟨whole, put⟩ | ⟨frame, deed, rest, was, first, next, later, cut, touches, reached, put, passage⟩
    · have done : after Deed.touches since = [] := after_of_split (by rw [whole, List.append_nil])
      simp only [Fate, done]
      exact put
    · simp only [Fate, after_of_split cut]
      cases passage with
      | own effect =>
        cases effect with
        | recorded => trivial
        | tookOver _ given byJob known stale =>
          obtain rfl : given = request := Option.some.inj (known.symm.trans put)
          have taken : deeds path history = (earlier ++ (number, .recorded given) :: before Deed.touches since) ++
              (frame, .tookOver given was.entry byJob) :: rest := by
            rw [List.append_assoc, List.cons_append, ← cut]
            exact split
          exact ⟨rfl, stale, run.given alive taken⟩
        | cleared _ served => exact ⟨put, served request put⟩
        | released =>
          rw [List.append_assoc]
          exact reached.failed rfl
        | _ => cases touches
      | aside effect =>
        cases effect with
        | recorded => trivial
        | _ => cases touches
      | discarded => cases touches

end Runs

theorem request_put_down_is_not_lost :
    ∃ (history : List (Moment Unit Unit)) (system : System Unit Unit) (earlier since : List (Nat × Deed)),
      Run ⟨0⟩ 1 [.client, .client, .worker] history system ∧ system.stopping = false ∧
      deeds ⟨"a.c"⟩ history = earlier ++ (3, .recorded ⟨⟨"a.c"⟩, ["-O3"], none⟩) :: since ∧
      calls since = [(9, ⟨⟨"a.c"⟩, ["-O3"], none⟩)] ∧
      Fate system ⟨"a.c"⟩ ⟨⟨"a.c"⟩, ["-O3"], none⟩ (earlier ++ [(3, .recorded ⟨⟨"a.c"⟩, ["-O3"], none⟩)]) since := by
  obtain ⟨history, system, run, checked⟩ := Run.of_follow ⟨0⟩ 1 [.client, .client, .worker] rebuiltByWorker
    (fun history system => !system.stopping && deeds ⟨"a.c"⟩ history == deeds ⟨"a.c"⟩ (history.take 3) ++
      (3, .recorded ⟨⟨"a.c"⟩, ["-O3"], none⟩) :: [(0, .kept ⟨0, ⟨⟨"a.c"⟩, ["-O2"], none⟩⟩),
        (0, .tookOver ⟨⟨"a.c"⟩, ["-O3"], none⟩ (some ⟨0, ⟨⟨"a.c"⟩, ["-O2"], none⟩⟩) false),
        (9, .taken ⟨⟨"a.c"⟩, ["-O3"], none⟩), (9, .stocked), (9, .called ⟨⟨"a.c"⟩, ["-O3"], none⟩)]) (by decide)
  obtain ⟨alive, split⟩ := Bool.and_eq_true_iff.mp checked
  have living : system.stopping = false := by simpa using alive
  have told := eq_of_beq split
  exact ⟨history, system, _, _, run, living, told, rfl,
    (recorded_requests_are_not_lost run living ⟨"a.c"⟩).2 _ _ _ _ told⟩

end UnitCache.Interleaving
