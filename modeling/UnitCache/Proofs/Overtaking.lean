import UnitCache.Proofs.Calls
import UnitCache.Proofs.Marks
import UnitCache.Proofs.Seekers
/-!
Which request a path is built for in the end. What is put down for a path, or is to be built, comes before the unit that
is there; a client that finds the unit as it wants it does not change that, so its request can be overtaken by an older
one. When nothing fails, this is the only way in which the last request for a path is not what its unit was built for.
-/
namespace UnitCache.Interleaving

variable {α κ : Type}

def Deed.fails : Deed → Bool
  | .refused | .failed | .panicked | .refreshFailed | .discarded => true
  | _ => false

/-- Whether one who seeks a unit contents itself with the one that is there. -/
def Deed.passes : Deed → Bool
  | .hit _ | .present _ => true
  | _ => false

def Phase.request? : Phase → Option Request
  | .wanted request _ | .due request _ | .building request _ => some request
  | _ => none

/-- What a path is to be built for: the request put down for it, or else the one that the owner of the mark is to build,
or else that of the unit which is there. -/
def target? (held : View) (phase : Option Phase) : Option Request :=
  held.pending.or ((phase.bind Phase.request?).or (held.entry.map Handle.request))

def System.target? (system : System α κ) (path : Path) : Option Request :=
  Interleaving.target? (view system.store path) (system.phase? path)

def System.heads (system : System α κ) (request : Request) : Bool :=
  (system.target? request.path).any fun target => target.serves request

/-- Whether the client that asks for a unit has contented itself with the one that is there, while the path was to be
built otherwise. -/
def Overtaken (request : Request) (history : List (Moment α κ)) : Prop :=
  ∃ moment ∈ history, ∃ number deed, moment.at? request.path = some (number, deed) ∧ deed.passes = true ∧
    moment.system.heads request = false

/-- A run in which units are asked for and built anew only, the engine never fails, and no job is refused. -/
structure Smooth (history : List (Moment α κ)) : Prop where
  plain : ∀ moment ∈ history, ∀ index job, moment.move ≠ .thread index (.call (.addParse job))
  succeeds : ∀ note ∈ notes history, note.deed.fails = false

theorem serves_self (request : Request) : request.serves request = true := by
  simp [Request.serves]

theorem serves_congr {left right : Request} (same : left.serves right = true) (wanted : Request) :
    left.serves wanted = right.serves wanted := by
  simp only [Request.serves, Bool.and_eq_true, beq_iff_eq] at same ⊢
  rw [same.1, same.2]

section Courses

variable {path : Path} {row : List (Nat × Deed)} {held next : View} {phase later : Option Phase} {number : Nat}
  {deed : Deed}

theorem Course.calm (course : Course path row held phase) (smooth : ∀ pair ∈ row, pair.2.fails = false) :
    phase ≠ some .spoilt ∧ ∀ frame, phase ≠ some (.leaving frame) := by
  induction course with
  | start => simp
  | @deed earlier _ _ _ _ number deed course passage ih =>
    have before := ih fun pair inside => smooth pair (List.mem_append_left _ inside)
    have fine : deed.fails = false := smooth (number, deed) (List.mem_append_right _ (List.mem_singleton.mpr rfl))
    cases passage with
    | own effect =>
      cases effect with
      | refused | failed | panicked | refreshFailed => cases fine
      | _ => simp
    | aside => exact before
    | discarded => cases fine

/-- What a path is to be built for changes only by those who seek its unit. -/
theorem Passage.target (passage : Passage path (some (number, deed)) held phase next later) (clear : Clear held phase)
    (calm : phase ≠ some .spoilt ∧ ∀ frame, phase ≠ some (.leaving frame)) (unsought : deed.seeks = false)
    (fine : deed.fails = false) (wanted : Request) :
    (target? next later).any (fun target => target.serves wanted) =
      (target? held phase).any (fun target => target.serves wanted) := by
  cases passage with
  | own effect =>
    cases effect with
    | hit | dropped | recorded | first | present | admitted => cases unsought
    | refused | failed | panicked | refreshFailed => cases fine
    | evicted => exact absurd rfl calm.1
    | released => exact absurd rfl (calm.2 _)
    | refreshing | taken | called => rfl
    | served _ _ handle found fits =>
      rw [clear handle found] at fits
      cases fits
    | stocked => cases put : held.pending <;> simp [target?, put, Phase.request?]
    | kept => cases put : held.pending <;> simp [target?, put, Phase.request?]
    | tookOver _ request byJob put => simp [target?, put, Phase.request?]
    | cleared _ served =>
      cases put : held.pending with
      | none => simp [target?, put, Phase.request?]
      | some request =>
        obtain ⟨handle, found, fits⟩ := served request put
        simp [target?, put, found, Phase.request?, serves_congr fits wanted]
  | aside effect => cases effect <;> cases unsought
  | discarded => cases fine

/-- One who seeks a unit has it built, unless it contents itself with the one that is there. -/
theorem Passage.target_of_answer (passage : Passage path (some (number, deed)) held phase next later)
    (marked : held.pending.isSome = true → held.marked = true) {request : Request} (answers : deed.Answers request) :
    deed.passes = true ∧ target? next later = target? held phase ∨
      deed.passes = false ∧ target? next later = some request := by
  have unput (free : held.marked = false) : held.pending = none := by
    cases put : held.pending with
    | none => rfl
    | some => rw [marked (by rw [put]; rfl)] at free; cases free
  cases passage with
  | own effect =>
    cases effect with
    | hit | present => exact .inl ⟨rfl, rfl⟩
    | recorded => cases answers; exact .inr ⟨rfl, rfl⟩
    | first _ _ _ _ free | admitted _ _ _ _ free =>
      cases answers
      exact .inr ⟨rfl, by simp [target?, unput free, Phase.request?]⟩
    | _ => cases answers
  | aside effect =>
    cases effect with
    | hit | present => exact .inl ⟨rfl, rfl⟩
    | recorded => cases answers; exact .inr ⟨rfl, rfl⟩
    | dropped => cases answers
  | discarded => cases answers

end Courses

section Runs

variable {flags : ParseFlags} {capacity : Nat} {roles : List Role} {history earlier later : List (Moment α κ)}
  {moment : Moment α κ} {system next : System α κ} {request : Request}

theorem Run.last (run : Run flags capacity roles (history ++ [moment]) next) :
    Run flags capacity roles history moment.system ∧ moment.system.move? moment.move = some next := by
  generalize whole : history ++ [moment] = all at run
  cases run with
  | start => simp at whole
  | move run made =>
    obtain ⟨rfl, same⟩ := List.append_inj' whole rfl
    cases same
    exact ⟨run, made⟩

theorem Smooth.deeds (smooth : Smooth history) (path : Path) : ∀ pair ∈ deeds path history, pair.2.fails = false := by
  intro pair inside
  obtain ⟨moment, here, told⟩ := List.mem_filterMap.mp inside
  cases known : moment.note? with
  | none =>
    rw [Moment.at?, known] at told
    cases told
  | some note =>
    rw [Moment.at?, known] at told
    have value : (note.frame, note.deed) = pair := onPath_eq_some told
    rw [← value]
    exact smooth.succeeds note (List.mem_filterMap.mpr ⟨moment, here, known⟩)

theorem Smooth.of_append (smooth : Smooth (history ++ later)) : Smooth history where
  plain moment inside := smooth.plain moment (List.mem_append_left _ inside)
  succeeds note inside := smooth.succeeds note (by
    rw [notes, List.filterMap_append]
    exact List.mem_append_left _ inside)

def Moment.Overtakes (request : Request) (moment : Moment α κ) : Prop :=
  ∃ number deed, moment.at? request.path = some (number, deed) ∧ deed.passes = true ∧
    moment.system.heads request = false

theorem overtaken_append :
    Overtaken request (later ++ [moment]) ↔ Overtaken request later ∨ moment.Overtakes request := by
  simp only [Overtaken, Moment.Overtakes, List.mem_append, List.mem_singleton, or_and_right, exists_or, exists_eq_left]

theorem System.heads_eq (system : System α κ) (request : Request) : system.heads request =
    (Interleaving.target? (view system.store request.path) (system.phase? request.path)).any fun target =>
      target.serves request := rfl

/-- The only client that seeks the unit of a path has not found it yet, or else the path is to be built as that client
wants it, unless it was overtaken. -/
def Awaited (request : Request) (later : List (Moment α κ)) (system : System α κ) : Prop :=
  (system.seekers request.path = [request] ∧ ¬Overtaken request later) ∨
  (system.seekers request.path = [] ∧ (system.heads request = true ↔ ¬Overtaken request later))

/-- What a path is to be built for is left open by a move that is not made by one who seeks its unit. -/
theorem Run.heads_of_unsought (run : Run flags capacity roles history moment.system)
    (smooth : Smooth (history ++ [moment])) (made : moment.system.move? moment.move = some next)
    (unsought : ∀ number deed, moment.at? request.path = some (number, deed) → deed.seeks = false) :
    next.heads request = moment.system.heads request := by
  have passage := passage_of_move run.sound.1 run.sound.2 made request.path
  have course := run.course request.path
  cases done : moment.at? request.path with
  | none =>
    rw [done] at passage
    rw [System.heads, System.target?, passage.nothing.1, passage.nothing.2]
    rfl
  | some pair =>
    obtain ⟨number, deed⟩ := pair
    rw [done] at passage
    have fine : deed.fails = false := by
      refine smooth.deeds request.path (number, deed) (List.mem_filterMap.mpr ⟨moment, ?_, done⟩)
      exact List.mem_append_right _ (List.mem_singleton.mpr rfl)
    exact passage.target course.clear (course.calm (smooth.of_append.deeds request.path)) (unsought number deed done)
      fine request

/-- The client is not answered by a move, so it seeks the unit still, or what the path is to be built for stays. -/
theorem Awaited.goes_on (run : Run flags capacity roles history moment.system) (smooth : Smooth (history ++ [moment]))
    (made : moment.system.move? moment.move = some next) (awaited : Awaited request later moment.system)
    (same : (next.seekers request.path).Perm (moment.system.seekers request.path))
    (quiet : ∀ number deed, moment.at? request.path = some (number, deed) → deed.seeks = true →
      (∃ handle, deed = .dropped handle) ∧ moment.system.seekers request.path ≠ []) :
    Awaited request (later ++ [moment]) next := by
  have unpassed : ¬moment.Overtakes request := by
    rintro ⟨number, deed, told, passes, _⟩
    obtain ⟨⟨handle, rfl⟩, _⟩ := quiet number deed told (by cases deed <;> first | rfl | cases passes)
    cases passes
  rw [Awaited, overtaken_append, or_iff_left unpassed]
  rcases awaited with ⟨seeks, on_time⟩ | ⟨nobody, agrees⟩
  · rw [seeks] at same
    exact .inl ⟨List.perm_singleton.mp same, on_time⟩
  · rw [nobody] at same
    have kept : next.heads request = moment.system.heads request := by
      refine run.heads_of_unsought smooth made fun number deed done => ?_
      by_contra sought
      exact (quiet number deed done (by simpa using sought)).2 nobody
    rw [kept]
    exact .inr ⟨same.eq_nil, agrees⟩

/-- The client is answered by a move. One that contents itself leaves open what the path is built for; any other one
decides it. -/
theorem Awaited.answered (run : Run flags capacity roles history moment.system)
    (made : moment.system.move? moment.move = some next) (awaited : Awaited request later moment.system) {number : Nat}
    {deed : Deed} {asked : Request} (told : moment.at? request.path = some (number, deed))
    (answers : deed.Answers asked)
    (gone : (moment.system.seekers request.path).Perm (asked :: next.seekers request.path)) :
    Awaited request (later ++ [moment]) next := by
  rcases awaited with ⟨seeks, on_time⟩ | ⟨nobody, _⟩
  · rw [seeks] at gone
    have whole : asked :: next.seekers request.path = [request] := List.perm_singleton.mp gone.symm
    obtain ⟨rfl, nobody⟩ := List.cons.inj whole
    have passage := passage_of_move run.sound.1 run.sound.2 made asked.path
    rw [told] at passage
    rw [Awaited, overtaken_append]
    refine .inr ⟨nobody, ?_⟩
    rcases passage.target_of_answer (run.course asked.path).marked_of_pending answers with
      ⟨passes, same⟩ | ⟨builds, same⟩
    · have kept : next.heads asked = moment.system.heads asked := by
        rw [System.heads_eq, same, ← System.heads_eq]
      have passed : moment.Overtakes asked ↔ moment.system.heads asked = false :=
        ⟨fun ⟨_, _, _, _, lost⟩ => lost, fun lost => ⟨number, deed, told, passes, lost⟩⟩
      rw [kept, or_iff_right on_time, passed, Bool.not_eq_false]
    · have heads : next.heads asked = true := by
        rw [System.heads_eq, same]
        exact serves_self asked
      have unpassed : ¬moment.Overtakes asked := by
        rintro ⟨_, _, known, passes, _⟩
        cases told.symm.trans known
        rw [builds] at passes
        cases passes
      rw [heads, or_iff_left unpassed]
      exact iff_of_true rfl on_time
  · rw [nobody] at gone
    cases gone.length_eq

theorem Awaited.step (run : Run flags capacity roles history moment.system) (smooth : Smooth (history ++ [moment]))
    (made : moment.system.move? moment.move = some next) (awaited : Awaited request later moment.system)
    (last : ∀ index other, moment.move = .thread index (.call (.getUnit other)) → (other.path == request.path) = false) :
    Awaited request (later ++ [moment]) next := by
  have search : Search request.path moment.system next (moment.at? request.path) := by
    refine search_of_move made request.path ?_
    intro index operation other call seeks
    cases operation with
    | getUnit asked =>
      cases seeks
      exact last index _ call
    | addParse job =>
      exact absurd call (smooth.plain moment (List.mem_append_right _ (List.mem_singleton.mpr rfl)) index job)
    | _ => cases seeks
  -- Either the client goes on to seek the unit, or this move is the one that answers it.
  cases search with
  | lasts same quiet => exact awaited.goes_on run smooth made same quiet
  | ends number deed asked told answers gone => exact awaited.answered run made told answers gone

theorem no_seekers (run : Run flags capacity roles history system) (smooth : Smooth history)
    (alone : ∀ frame ∈ system.frames, ∀ other, frame.task = .operation (.getUnit other) →
      (other.path == request.path) = false) : system.seekers request.path = [] := by
  rw [System.seekers, List.filterMap_eq_nil_iff]
  intro frame inside
  rw [Frame.seeks?, Option.filter_eq_none_iff]
  intro other seeks here
  have task := run.seeks frame inside other seeks
  have plain : ∀ operation, frame.task = .operation operation → ∀ job, operation ≠ .addParse job := by
    refine run.called (fun moment there index operation call job same => ?_) frame inside
    exact smooth.plain moment there index job (by rw [call, same])
  cases known : frame.task with
  | operation operation =>
    rw [known] at task
    cases operation with
    | getUnit asked =>
      cases task
      rw [alone frame inside _ known] at here
      cases here
    | addParse job => exact plain _ known job rfl
    | _ => cases task
  | job | tick =>
    rw [known] at task
    cases task

theorem seekers_of_call {index : Nat} (made : system.move? (.thread index (.call (.getUnit request))) = some next)
    (nobody : system.seekers request.path = []) : next.seekers request.path = [request] := by
  rcases move?_cases made with ⟨_, _, thread, later, same, found, acted, threads, _⟩ | ⟨same, _⟩ | ⟨_, same, _⟩ | ⟨same, _⟩
  · cases same
    rcases act?_cases acted with ⟨operation, same, _, rfl⟩ | ⟨_, same, _⟩ | ⟨_, same, _⟩ | ⟨same, _⟩ | goes
    · cases same
      have is := seekers_begin found threads request.path
      rw [nobody] at is
      have own : (some request).filter (fun other => other.path == request.path) = some request := by
        simp [Option.filter]
      have wanted : sought? ((Operation.getUnit request : Operation κ).activity : Activity α κ) = some request := rfl
      rw [wanted, own] at is
      exact List.perm_singleton.mp is
    · cases same
    · cases same
    · cases same
    · obtain ⟨_, _, _, _, _, chosen, _⟩ := goes
      cases chosen
  · cases same
  · cases same
  · cases same

theorem Run.awaited {before : System α κ} {index : Nat}
    (run : Run flags capacity roles (earlier ++ ⟨before, .thread index (.call (.getUnit request))⟩ :: later) system)
    (smooth : Smooth (earlier ++ ⟨before, .thread index (.call (.getUnit request))⟩ :: later))
    (alone : ∀ frame ∈ before.frames, ∀ other, frame.task = .operation (.getUnit other) →
      (other.path == request.path) = false)
    (last : ∀ moment ∈ later, ∀ index other, moment.move = .thread index (.call (.getUnit other)) →
      (other.path == request.path) = false) : Awaited request later system := by
  induction later using List.reverseRecOn generalizing system with
  | nil =>
    obtain ⟨reached, made⟩ := run.last
    have nobody := no_seekers reached smooth.of_append alone
    refine .inl ⟨seekers_of_call made nobody, ?_⟩
    rintro ⟨_, inside, _⟩
    cases inside
  | append_singleton later moment ih =>
    rw [← List.cons_append, ← List.append_assoc] at run smooth
    obtain ⟨reached, made⟩ := run.last
    have awaited := ih reached smooth.of_append fun moment inside => last moment (List.mem_append_left _ inside)
    exact awaited.step reached smooth made (last moment (List.mem_append_right _ (List.mem_singleton.mpr rfl)))

theorem target_of_rest (run : Run flags capacity roles history system) (smooth : Smooth history)
    (idle : system.frames = []) (drained : system.store.queue.jobs = []) (path : Path) :
    system.target? path = (system.store.peek path).map Handle.request := by
  have free : system.phase? path = none := by
    rw [System.phase?, System.phases, System.stakes, idle, drained]
    rfl
  have course := run.course path
  have unmarked : (view system.store path).marked = false := by
    rw [course.marked_iff (fun number lost => ?_), free]
    · rfl
    · cases smooth.deeds path _ lost
  have unput : (view system.store path).pending = none := by
    cases put : (view system.store path).pending with
    | none => rfl
    | some => rw [course.marked_of_pending (by rw [put]; rfl)] at unmarked; cases unmarked
  rw [System.target?, target?, unput, free]
  rfl

/-- A run in which nothing fails and a client asks for a unit when nobody is about to ask for one of the same path, and
nobody does so behind it; in the end no call or job is in progress, and the queue is empty. -/
structure LastRequest (flags : ParseFlags) (capacity : Nat) (roles : List Role) (earlier : List (Moment α κ))
    (before : System α κ) (index : Nat) (request : Request) (later : List (Moment α κ)) (system : System α κ) : Prop where
  run : Run flags capacity roles (earlier ++ ⟨before, .thread index (.call (.getUnit request))⟩ :: later) system
  smooth : Smooth (earlier ++ ⟨before, .thread index (.call (.getUnit request))⟩ :: later)
  alone : ∀ frame ∈ before.frames, ∀ other, frame.task = .operation (.getUnit other) →
    (other.path == request.path) = false
  last : ∀ moment ∈ later, ∀ index other, moment.move = .thread index (.call (.getUnit other)) →
    (other.path == request.path) = false
  idle : system.frames = []
  drained : system.store.queue.jobs = []

/-- When nothing fails, the unit of a path is in the end as the last client wants it that has asked for it, if and only if
this client was not overtaken. -/
theorem last_request_is_built_unless_overtaken {before : System α κ} {index : Nat}
    (asked : LastRequest flags capacity roles earlier before index request later system) :
    (∃ handle, system.store.peek request.path = some handle ∧ handle.request.serves request = true) ↔
      ¬Overtaken request later := by
  rcases asked.run.awaited asked.smooth asked.alone asked.last with ⟨seeks, _⟩ | ⟨_, agrees⟩
  · rw [System.seekers, asked.idle] at seeks
    cases seeks
  · rw [← agrees, System.heads, target_of_rest asked.run asked.smooth asked.idle asked.drained, Option.any_map,
      Option.any_eq_true]

end Runs

def Move.calls : Move α κ → Bool
  | .thread _ (.call _) => true
  | _ => false

def Move.adds : Move α κ → Bool
  | .thread _ (.call (.addParse _)) => true
  | _ => false

def lastRequest (earlier : List (Moment α κ)) (before : System α κ) (index : Nat) (request : Request)
    (later : List (Moment α κ)) (system : System α κ) : Bool :=
  let history := earlier ++ ⟨before, .thread index (.call (.getUnit request))⟩ :: later
  (history.all fun moment => !moment.move.adds) && ((notes history).all fun note => !note.deed.fails) &&
    before.frames.isEmpty && (later.all fun moment => !moment.move.calls) && system.frames.isEmpty &&
    system.store.queue.jobs.isEmpty

theorem LastRequest.of_check {flags : ParseFlags} {capacity : Nat} {roles : List Role}
    {earlier later : List (Moment α κ)}
    {before system : System α κ} {index : Nat} {request : Request}
    (run : Run flags capacity roles (earlier ++ ⟨before, .thread index (.call (.getUnit request))⟩ :: later) system)
    (checked : lastRequest earlier before index request later system = true) :
    LastRequest flags capacity roles earlier before index request later system := by
  simp only [lastRequest, Bool.and_eq_true, List.isEmpty_iff, List.all_eq_true] at checked
  obtain ⟨⟨⟨⟨⟨plain, succeeds⟩, alone⟩, last⟩, idle⟩, drained⟩ := checked
  refine ⟨run, ⟨?_, ?_⟩, ?_, ?_, idle, drained⟩
  · intro moment inside index job call
    have allowed := plain moment inside
    rw [call] at allowed
    cases allowed
  · exact fun note inside => by simpa using succeeds note inside
  · intro frame inside
    rw [alone] at inside
    cases inside
  · intro moment inside index other call
    have silent := last moment inside
    rw [call] at silent
    cases silent

/-- A client builds a unit and has it built anew, and that job is queued. -/
def refreshQueued : List (Move Unit Unit) :=
  [.thread 0 (.call (.getUnit ⟨⟨"a.c"⟩, ["-O2"], none⟩)), .thread 0 .proceed, .thread 0 .proceed,
    .thread 0 (.parsed (.ok ())), .thread 0 .proceed, .thread 0 .proceed,
    .thread 0 (.call (.addReparse ⟨⟨⟨"a.c"⟩, ["-O2"], none⟩, .reparse, none⟩)), .thread 0 .proceed, .thread 0 .proceed]

/-- The unit is asked for with other options then, and a worker builds it with these instead. -/
theorem last_request_is_built_behind_refresh :
    ∃ (earlier later : List (Moment Unit Unit)) (before system : System Unit Unit),
      LastRequest ⟨0⟩ 1 [.client, .worker] earlier before 0 ⟨⟨"a.c"⟩, ["-O3"], none⟩ later system ∧
      ∃ handle, system.store.peek ⟨"a.c"⟩ = some handle ∧ handle.request.serves ⟨⟨"a.c"⟩, ["-O3"], none⟩ = true := by
  obtain ⟨earlier, before, later, system, run, checked⟩ := Run.of_follow_through ⟨0⟩ 1 [.client, .worker] refreshQueued
    (.thread 0 (.call (.getUnit ⟨⟨"a.c"⟩, ["-O3"], none⟩)))
    [.thread 0 .proceed, .thread 0 .proceed, .thread 0 .proceed, .thread 1 .take, .thread 1 .proceed, .thread 1 .proceed,
      .thread 1 .proceed, .thread 1 .proceed, .thread 1 (.parsed (.ok ())), .thread 1 .proceed, .thread 1 .proceed]
    (fun earlier before later system => lastRequest earlier before 0 ⟨⟨"a.c"⟩, ["-O3"], none⟩ later system &&
      (deeds ⟨"a.c"⟩ later).all fun pair => !pair.2.passes) (by decide)
  obtain ⟨asked, on_time⟩ := Bool.and_eq_true_iff.mp checked
  have asked := LastRequest.of_check run asked
  refine ⟨earlier, later, before, system, asked, (last_request_is_built_unless_overtaken asked).mpr ?_⟩
  rintro ⟨moment, inside, number, deed, told, passes, _⟩
  have quiet := List.all_eq_true.mp on_time (number, deed) (List.mem_filterMap.mpr ⟨moment, inside, told⟩)
  rw [passes] at quiet
  cases quiet

/-- While a job waits that is to build a unit otherwise, the last client finds the unit as it wants it; then the job
builds it as another client had wanted it before. -/
theorem last_request_can_be_overtaken :
    ∃ (earlier later : List (Moment Unit Unit)) (before system : System Unit Unit),
      LastRequest ⟨0⟩ 1 [.client, .client, .worker] earlier before 1 ⟨⟨"a.c"⟩, ["-O2"], none⟩ later system ∧
      system.store.peek ⟨"a.c"⟩ = some ⟨1, ⟨⟨"a.c"⟩, ["-O3"], none⟩⟩ ∧
      ¬∃ handle, system.store.peek ⟨"a.c"⟩ = some handle ∧
        handle.request.serves ⟨⟨"a.c"⟩, ["-O2"], none⟩ = true := by
  obtain ⟨earlier, before, later, system, run, checked⟩ := Run.of_follow_through ⟨0⟩ 1 [.client, .client, .worker]
    rebuildQueued (.thread 1 (.call (.getUnit ⟨⟨"a.c"⟩, ["-O2"], none⟩)))
    [.thread 1 .proceed, .thread 2 .take, .thread 2 .proceed, .thread 2 .proceed, .thread 2 .proceed,
      .thread 2 (.parsed (.ok ())), .thread 2 .proceed, .thread 2 .proceed]
    (fun earlier before later system => lastRequest earlier before 1 ⟨⟨"a.c"⟩, ["-O2"], none⟩ later system &&
      system.store.peek ⟨"a.c"⟩ == some ⟨1, ⟨⟨"a.c"⟩, ["-O3"], none⟩⟩) (by decide)
  obtain ⟨asked, built⟩ := Bool.and_eq_true_iff.mp checked
  have found := eq_of_beq built
  refine ⟨earlier, later, before, system, .of_check run asked, found, ?_⟩
  rintro ⟨handle, there, serves⟩
  cases found.symm.trans there
  revert serves
  decide

end UnitCache.Interleaving
