import UnitCache.Proofs.Course
/-!
Who seeks a unit. A client that asks for a unit seeks it until it has looked, and if what it found was built otherwise,
until it has looked again whether a job is to be queued. Nobody else does what it does to a path.
-/
namespace UnitCache.Interleaving

variable {α κ : Type}

def sought? : Activity α κ → Option Request
  | .lookUp request | .dropStale request _ => some request
  | .admitParse job _ => some job.request
  | _ => none

def Deed.seeks : Deed → Bool
  | .hit _ | .dropped _ | .recorded _ | .first _ | .present _ | .admitted _ => true
  | _ => false

def Deed.Answers (request : Request) : Deed → Prop
  | .hit _ | .present _ => True
  | .recorded other | .first other | .admitted other => other = request
  | _ => False

/-- What one who seeks a unit for a request does at one go, and what it seeks then. -/
inductive Seeking (request : Request) : Option (Path × Deed) → Option Request → Prop where
  | counts : Seeking request none (some request)
  | dropped (handle : Handle) : Seeking request (some (request.path, .dropped handle)) (some request)
  | answered (deed : Deed) (answers : deed.Answers request) : Seeking request (some (request.path, deed)) none

theorem Seeking.same {request other : Request} {done : Option (Path × Deed)}
    (seeking : Seeking request done (some other)) :
    other = request := by
  cases seeking <;> rfl

theorem Follows.unsought {store : Store α κ} {activity behind : Activity α κ} (follows : Follows store activity behind)
    (idle : sought? activity = none) : sought? behind = none := by
  cases follows with
  | drops | admits => cases idle
  | _ => rfl

section Frames

variable {background : Bool} {store next : Store α κ} {frame : Frame α κ} {choice : Choice α κ} {turn : Turn α κ}
  {left : Option (Frame α κ)}

theorem deedOf_unsought {path : Path} {deed : Deed} {activity : Activity α κ} (idle : sought? activity = none)
    (told : deedOf background store activity = some (path, deed)) : deed.seeks = false := by
  cases activity with
  | lookUp | dropStale | admitParse => cases idle
  | admitReparse job giving =>
    simp only [deedOf] at told
    split at told
    next => cases told; rfl
    next => cases told
  | enqueue job giving =>
    simp only [deedOf] at told
    split at told <;> cases told <;> rfl
  | withdraw | unwind => cases told; rfl
  | load request owner =>
    obtain ⟨_, _, same⟩ := Option.map_eq_some_iff.mp told
    cases same
    split <;> rfl
  | settle owner built =>
    obtain ⟨_, _, same⟩ := Option.map_eq_some_iff.mp told
    cases same
    split <;> rfl
  | build | keep | evict =>
    obtain ⟨_, _, same⟩ := Option.map_eq_some_iff.mp told
    cases same
    rfl
  | _ => cases told

theorem answered_cases {β : Type} {owner : Owner κ} {error deed : Deed} {answer : Answer β} {path : Path}
    (told : answered owner error answer = some (path, deed)) : deed = error ∨ deed = .panicked := by
  cases answer with
  | ok => cases told
  | error =>
    obtain ⟨_, _, same⟩ := Option.map_eq_some_iff.mp told
    cases same
    exact .inl rfl
  | panic =>
    obtain ⟨_, _, same⟩ := Option.map_eq_some_iff.mp told
    cases same
    exact .inr rfl

theorem deed?_unsought {path : Path} {deed : Deed} (idle : sought? frame.activity = none)
    (told : frame.deed? background store choice = some (path, deed)) : deed.seeks = false := by
  cases choice with
  | proceed => exact deedOf_unsought idle told
  | parsed answer =>
    simp only [Frame.deed?] at told
    split at told
    next => rcases answered_cases told with rfl | rfl <;> rfl
    next => cases told
  | reparsed answer =>
    simp only [Frame.deed?] at told
    split at told
    next => rcases answered_cases told with rfl | rfl <;> rfl
    next => cases told
  | _ => cases told

theorem left_unsought (idle : sought? frame.activity = none)
    (chosen : turn? background store frame.activity choice = some turn) (made : frame.after? turn = some (next, left)) :
    left.bind (fun frame => sought? frame.activity) = none := by
  cases turn <;> cases made
  · exact (follows_of_turn chosen).unsought idle
  · rfl

theorem seeking_of_turn {request : Request} (seeks : sought? frame.activity = some request)
    (chosen : turn? background store frame.activity choice = some turn) (made : frame.after? turn = some (next, left)) :
    Seeking request (frame.deed? background store choice) (left.bind fun frame => sought? frame.activity) := by
  obtain ⟨number, task, activity⟩ := frame
  have given {giving : Giving} {warnings : List Warning} {later : Store α κ}
      (made : (⟨number, task, activity⟩ : Frame α κ).after? (giving.give later false warnings) = some (next, left)) :
      left.bind (fun frame => sought? frame.activity) = none := by
    cases giving <;> cases made <;> rfl
  cases activity with
  | lookUp asked =>
    cases seeks
    cases choice with
    | proceed =>
      cases chosen
      rcases lookUp_cases store request with ⟨handle, _, _, looked⟩ | ⟨handle, _, _, looked⟩ | ⟨_, _, looked⟩ |
        ⟨_, _, looked⟩ <;> simp only [Activity.step, looked] at made <;> cases made <;>
        simp only [Frame.deed?, deedOf, looked]
      · exact .answered _ trivial
      · exact .dropped handle
      · exact .answered _ rfl
      · exact .answered _ rfl
    | _ => cases chosen
  | dropStale asked stale =>
    cases seeks
    cases choice with
    | proceed =>
      cases chosen
      cases made
      exact .counts
    | _ => cases chosen
  | admitParse job giving =>
    cases seeks
    cases choice with
    | proceed =>
      cases chosen
      rcases admitParse_cases store job.request with ⟨handle, found, admitted⟩ | ⟨absent, marked, admitted⟩ |
        ⟨absent, free, admitted⟩ <;> simp only [Activity.step, admitted] at made
      · rw [given made]
        simp only [Frame.deed?, deedOf, found]
        exact .answered _ trivial
      · rw [given made]
        simp only [Frame.deed?, deedOf, absent, marked]
        exact .answered _ rfl
      · cases made
        simp only [Frame.deed?, deedOf, absent, free]
        exact .answered _ rfl
    | _ => cases chosen
  | _ => cases seeks

end Frames

def Frame.seeks? (path : Path) (frame : Frame α κ) : Option Request :=
  (sought? frame.activity).filter fun request => request.path == path

def System.seekers (system : System α κ) (path : Path) : List Request := system.frames.filterMap (Frame.seeks? path)

inductive Search (path : Path) (system next : System α κ) (done : Option (Nat × Deed)) : Prop where
  | lasts (same : (next.seekers path).Perm (system.seekers path))
      (quiet : ∀ number deed, done = some (number, deed) → deed.seeks = true →
        (∃ handle, deed = .dropped handle) ∧ system.seekers path ≠ [])
  | ends (number : Nat) (deed : Deed) (request : Request) (told : done = some (number, deed))
      (answers : deed.Answers request) (gone : (system.seekers path).Perm (request :: next.seekers path))

theorem seeks_of_turn {background : Bool} {store next : Store α κ} {frame : Frame α κ} {choice : Choice α κ}
    {turn : Turn α κ} {left : Option (Frame α κ)} (path : Path)
    (chosen : turn? background store frame.activity choice = some turn) (made : frame.after? turn = some (next, left)) :
    (left.bind (Frame.seeks? path) = frame.seeks? path ∧
      ∀ deed, onPath path (frame.deed? background store choice) = some deed → deed.seeks = true →
        (∃ handle, deed = .dropped handle) ∧ frame.seeks? path ≠ none) ∨
    ∃ deed request, onPath path (frame.deed? background store choice) = some deed ∧ deed.Answers request ∧
      frame.seeks? path = some request ∧ left.bind (Frame.seeks? path) = none := by
  have left_seeks : left.bind (Frame.seeks? path) =
      (left.bind fun frame => sought? frame.activity).filter fun request => request.path == path := by
    cases left <;> rfl
  rw [left_seeks]
  cases seeks : sought? frame.activity with
  | none =>
    rw [left_unsought seeks chosen made, Frame.seeks?, seeks]
    refine .inl ⟨rfl, fun deed told sought => ?_⟩
    cases done : frame.deed? background store choice with
    | none =>
      rw [done] at told
      cases told
    | some pair =>
      rw [done] at told
      have known : pair.2 = deed := onPath_eq_some told
      rw [← known, deed?_unsought seeks done] at sought
      cases sought
  | some request =>
    -- What is done is told of the path that the request names, so it matters only if that is this path.
    have seeking := seeking_of_turn seeks chosen made
    rw [Frame.seeks?, seeks]
    generalize frame.deed? background store choice = done at seeking
    generalize (left.bind fun frame => sought? frame.activity) = seeks_then at seeking
    by_cases same : (request.path == path) = true
    · cases seeking with
      | counts => exact .inl ⟨rfl, by simp⟩
      | dropped handle =>
        refine .inl ⟨rfl, fun deed told _ => ⟨⟨handle, ?_⟩, by simp [Option.filter, same]⟩⟩
        exact (onPath_eq_some told).symm
      | answered deed answers =>
        exact .inr ⟨deed, request, onPath_same _ same, answers, by simp [Option.filter, same], rfl⟩
    · have apart : (request.path == path) = false := by simpa using same
      refine .inl ⟨?_, ?_⟩
      · cases seeking <;> simp [Option.filter, apart]
      · intro deed told
        cases seeking with
        | counts => cases told
        | dropped | answered =>
          rw [onPath_apart _ apart] at told
          cases told

section Moves

variable {system next : System α κ} {move : Move α κ} {index : Nat} {choice : Choice α κ} {thread later : Thread α κ}

theorem seekers_append (path : Path) (left : Option (Frame α κ)) (frames : List (Frame α κ)) :
    (left.toList ++ frames).filterMap (Frame.seeks? path) =
      (left.bind (Frame.seeks? path)).toList ++ frames.filterMap (Frame.seeks? path) := by
  rw [List.filterMap_append]
  cases left with
  | none => rfl
  | some frame => cases seeks : frame.seeks? path <;> simp [seeks]

theorem search_of_continues (found : system.threads[index]? = some thread)
    (threads : next.threads = system.threads.set index later)
    (goes : thread.Continues system.store choice next.store later) (path : Path) :
    Search path system next ((⟨system, .thread index choice⟩ : Moment α κ).at? path) := by
  obtain ⟨frame, rest, turn, left, stack, chosen, made, behind⟩ := goes
  obtain ⟨others, before, after⟩ := frames_set found later
  rw [stack, List.cons_append] at before
  rw [behind, List.append_assoc] at after
  have was : (system.seekers path).Perm
      ((frame.seeks? path).toList ++ (rest ++ others).filterMap (Frame.seeks? path)) := by
    have cut := before.filterMap (Frame.seeks? path)
    rwa [← List.singleton_append, ← Option.toList_some, seekers_append] at cut
  have is : (next.seekers path).Perm
      ((left.bind (Frame.seeks? path)).toList ++ (rest ++ others).filterMap (Frame.seeks? path)) := by
    have cut := after.filterMap (Frame.seeks? path)
    rw [seekers_append] at cut
    rwa [System.seekers, System.frames, threads]
  have told : (⟨system, .thread index choice⟩ : Moment α κ).at? path =
      (onPath path (frame.deed? thread.background system.store choice)).map (frame.number, ·) := by
    rw [Moment.at?, note?_continues found stack (by rintro rfl; cases chosen), Option.map_map]
    exact onPath_map path (frame.number, ·) _
  rw [told]
  rcases seeks_of_turn path chosen made with ⟨same, quiet⟩ | ⟨deed, request, done, answers, seeks, answered⟩
  · rw [same] at is
    refine .lasts (is.trans was.symm) fun number deed here sought => ?_
    obtain ⟨other, done, value⟩ := Option.map_eq_some_iff.mp here
    cases value
    obtain ⟨drops, seeks⟩ := quiet deed done sought
    refine ⟨drops, fun nobody => ?_⟩
    rw [nobody] at was
    cases known : frame.seeks? path with
    | none => exact seeks known
    | some request =>
      rw [known] at was
      simpa using was.length_eq
  · rw [seeks] at was
    rw [answered] at is
    exact .ends frame.number deed request (by rw [done]; rfl) answers (was.trans (is.symm.cons request))

theorem seekers_begin {number : Nat} {task : Task κ} {activity : Activity α κ}
    (found : system.threads[index]? = some thread)
    (threads : next.threads = system.threads.set index (thread.begin number task activity)) (path : Path) :
    (next.seekers path).Perm
      (((sought? activity).filter fun request => request.path == path).toList ++ system.seekers path) := by
  obtain ⟨others, before, behind⟩ := frames_set found (thread.begin number task activity)
  have is := behind.filterMap (Frame.seeks? path)
  rw [Thread.begin, ← List.singleton_append, ← Option.toList_some, List.append_assoc, seekers_append] at is
  rw [System.seekers, System.frames, threads]
  exact is.trans ((before.symm.filterMap _).append_left _)

theorem search_lasts {path : Path} (same : (next.seekers path).Perm (system.seekers path))
    (quiet : ∀ note, (⟨system, move⟩ : Moment α κ).note? = some note → note.deed.seeks = false) :
    Search path system next ((⟨system, move⟩ : Moment α κ).at? path) := by
  refine .lasts same fun number deed told sought => ?_
  rw [Moment.at?] at told
  cases known : (⟨system, move⟩ : Moment α κ).note? with
  | none =>
    rw [known] at told
    cases told
  | some note =>
    rw [known] at told
    have value : (note.frame, note.deed) = (number, deed) := onPath_eq_some told
    cases value
    rw [quiet note known] at sought
    cases sought

/-- Apart from a call, what a thread does ends at most one search for the unit of a path, and begins none. -/
theorem search_of_act (found : system.threads[index]? = some thread)
    (acted : thread.act? system.clock system.store choice = some (next.store, later))
    (threads : next.threads = system.threads.set index later) (path : Path)
    (uncalled : ∀ operation request, choice = .call operation →
      sought? (operation.activity : Activity α κ) = some request → (request.path == path) = false) :
    Search path system next ((⟨system, .thread index choice⟩ : Moment α κ).at? path) := by
  rcases act?_cases acted with ⟨operation, rfl, store, rfl⟩ | ⟨handle, rfl, store, stack⟩ | ⟨job, rfl, taken, rfl⟩ |
    ⟨rfl, store, rfl⟩ | goes
  · have silent : (⟨system, .thread index (.call operation)⟩ : Moment α κ).note? = none :=
      note?_idle found (by simp) fun _ => rfl
    have is := seekers_begin found threads path
    rw [Option.filter_eq_none_iff.mpr (by simpa using uncalled operation · rfl)] at is
    exact search_lasts is (by simp [silent])
  · have silent : (⟨system, .thread index (.release handle)⟩ : Moment α κ).note? = none :=
      note?_idle found (by simp) fun _ => rfl
    obtain ⟨others, before, behind⟩ := frames_set found later
    rw [stack] at behind
    refine search_lasts ?_ (by simp [silent])
    rw [System.seekers, System.frames, threads]
    exact (behind.trans before.symm).filterMap _
  · have is := seekers_begin found threads path
    have idle : sought? (Activity.ofJob job : Activity α κ) = none := by
      cases kind : job.kind <;> simp [Activity.ofJob, kind, sought?]
    rw [idle] at is
    refine search_lasts is fun note told => ?_
    cases kind : job.kind <;> simp [Moment.note?, found, taken, kind] at told
    rw [← told]
    rfl
  · have silent : (⟨system, .thread index .tick⟩ : Moment α κ).note? = none := note?_idle found (by simp) fun _ => rfl
    exact search_lasts (seekers_begin found threads path) (by simp [silent])
  · exact goes.elim fun goes => search_of_continues found threads goes path

/-- Apart from calls, a move ends at most one search for the unit of a path, and begins none. -/
theorem search_of_move (made : system.move? move = some next) (path : Path)
    (uncalled : ∀ index operation request, move = .thread index (.call operation) →
      sought? (operation.activity : Activity α κ) = some request → (request.path == path) = false) :
    Search path system next ((⟨system, move⟩ : Moment α κ).at? path) := by
  have still (threads : next.threads = system.threads) : (next.seekers path).Perm (system.seekers path) := by
    rw [System.seekers, System.frames, threads]
    rfl
  rcases move?_cases made with ⟨index, choice, thread, later, rfl, found, acted, threads, _⟩ |
    ⟨rfl, _, threads, _⟩ | ⟨job, rfl, taken, threads, _⟩ | ⟨rfl, _, threads, _⟩
  · exact search_of_act found acted threads path fun operation request called =>
      uncalled index operation request (by rw [called])
  · exact search_lasts (still threads) (by simp [Moment.note?])
  · refine search_lasts (still threads) fun note told => ?_
    simp only [Moment.note?, taken, Option.map_some, Option.some.injEq] at told
    rw [← told]
    rfl
  · exact search_lasts (still threads) (by simp [Moment.note?])

end Moves

def Task.sought? : Task κ → Option Request
  | .operation (.getUnit request) => some request
  | .operation (.addParse work) => some work.request
  | _ => none

section Runs

variable {flags : ParseFlags} {capacity : Nat} {roles : List Role} {history : List (Moment α κ)} {system : System α κ}

theorem Run.seeks (run : Run flags capacity roles history system) :
    ∀ frame ∈ system.frames, ∀ request, sought? frame.activity = some request → frame.task.sought? = some request := by
  induction run with
  | start =>
    intro frame inside
    rw [frames_start] at inside
    cases inside
  | move run made ih =>
    refine frames_of_move made ?_ ?_ ?_ ?_ ih
    · intro index operation number _ request seeks
      cases operation <;> cases seeks <;> rfl
    · intro job number request seeks
      cases kind : job.kind <;> simp [Activity.ofJob, kind, sought?] at seeks
    · simp [sought?]
    · intro background choice frame turn store left known chosen went request seeks
      cases sought : sought? frame.activity with
      | none =>
        have unsought := left_unsought sought chosen went
        rw [Option.bind_some, seeks] at unsought
        cases unsought
      | some other =>
        have seeking := seeking_of_turn sought chosen went
        rw [Option.bind_some, seeks] at seeking
        rw [(after?_same went).2, known other sought, seeking.same]

theorem Run.called (run : Run flags capacity roles history system) {allowed : Operation κ → Prop}
    (calls : ∀ moment ∈ history, ∀ index operation, moment.move = .thread index (.call operation) → allowed operation) :
    ∀ frame ∈ system.frames, ∀ operation, frame.task = .operation operation → allowed operation := by
  induction run with
  | start =>
    intro frame inside
    rw [frames_start] at inside
    cases inside
  | @move history system next move run made ih =>
    refine frames_of_move made ?_ (by simp) (by simp) ?_
      (ih fun moment inside => calls moment (List.mem_append_left _ inside))
    · intro index operation number call other same
      cases same
      exact calls ⟨system, move⟩ (List.mem_append_right _ (List.mem_singleton.mpr rfl)) index operation call
    · intro background choice frame turn store left known chosen went operation same
      exact known operation ((after?_same went).2.symm.trans same)

end Runs

end UnitCache.Interleaving
