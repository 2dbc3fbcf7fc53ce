import UnitCache.Proofs.Overtaking
import UnitCache.Proofs.Pauses
/-!
What the cache does when the queue refuses a job. The path was marked for the job, and the mark is taken back; since
nothing is put down for a path without a mark, the store is then what it was before.
-/
namespace UnitCache

variable {α κ : Type}

/-- Whether the queue refuses jobs: it is closed, or it is full and the thread may not wait for room. -/
def Store.Refuses (store : Store α κ) (background : Bool) : Prop :=
  store.queue.isOpen = false ∨ background = true ∧ store.queue.capacity ≤ store.queue.jobs.length

theorem Store.Refuses.enqueue {store : Store α κ} {background : Bool} (refuses : store.Refuses background)
    (job : Job κ) :
    store.enqueue background job = (.closed, store) ∨ store.enqueue background job = (.full, store) := by
  rcases refuses with closed | ⟨rfl, full⟩
  · exact .inl (by simp [Store.enqueue, closed])
  · by_cases closed : store.queue.isOpen = false
    · exact .inl (by simp [Store.enqueue, closed])
    · exact .inr (by simp [Store.enqueue, closed, Nat.not_lt.mpr full])

theorem Store.release_mark {store : Store α κ} {path : Path} (free : store.isParsing path = false)
    (nothing : store.pending.get? path = none) : (store.mark path).release path = store := by
  have unmarked : store.parsing.get? path = none := by
    rw [Store.isParsing, PathMap.contains_eq_isSome] at free
    simpa using free
  simp [Store.mark, Store.release, free, PathMap.erase_insert unmarked, PathMap.erase_of_absent nothing]

theorem Store.settle_unserved {store : Store α κ} {path : Path} {request : Request}
    (put : store.pending.get? path = some request)
    (stale : ∀ handle, store.peek path = some handle → handle.request.serves request = false) :
    store.settle path = (some request, { store with pending := store.pending.erase path }) := by
  have unserved : ¬ ((store.peek path).any fun handle => handle.request.serves request) = true := by
    rw [Bool.not_eq_true, Option.any_eq_false_iff_get]
    exact fun there => by simpa using stale _ (Option.some_get there).symm
  simp only [Store.settle, put]
  exact if_neg unserved

theorem Store.release_given (store : Store α κ) {path other : Path} (same : (other == path) = true) :
    ({ store with pending := store.pending.erase path } : Store α κ).release other = store.release path := by
  have gone : (store.pending.erase path).get? path = none := by simp [PathMap.get?_erase]
  simp [Store.release, PathMap.erase_congr _ same, PathMap.erase_of_absent gone]

namespace Interleaving

def leadsOn : Turn α κ → Bool
  | .next .. => true
  | _ => false

/-- What comes of a turn in the end if nobody else moves meanwhile. -/
inductive Comes (background : Bool) : Turn α κ → Turn α κ → Prop where
  | rests {turn : Turn α κ} (rests : leadsOn turn = false) : Comes background turn turn
  | next {choice : Choice α κ} {turn last : Turn α κ} (store : Store α κ) (activity : Activity α κ)
      (warnings : List Warning) (chosen : turn? background store activity choice = some turn)
      (rest : Comes background turn last) : Comes background (.next store activity warnings) last

def goesByItself : Activity α κ → Bool
  | .parsing .. | .using .. | .calling _ | .refreshNext .. => false
  | _ => true

section Turns

variable {background : Bool} {store : Store α κ} {activity : Activity α κ} {last : Turn α κ}
  {warnings : List Warning}

theorem turn_of_goesByItself {choice : Choice α κ} {turn : Turn α κ} (alone : goesByItself activity = true)
    (chosen : turn? background store activity choice = some turn) : turn = activity.step background store := by
  cases choice with
  | proceed => exact (Option.some.inj chosen).symm
  | parsed | reparsed | completed | returned | reorder => cases rule_of_turn chosen <;> cases alone
  | call | release | take | tick => cases chosen

theorem comes_of_rests {turn : Turn α κ} (rests : leadsOn turn = false) :
    Comes background turn last ↔ last = turn := by
  constructor
  · intro comes
    cases comes with
    | rests => rfl
    | next => cases rests
  · rintro rfl
    exact .rests rests

theorem Comes.of_step (store : Store α κ) (activity : Activity α κ) (warnings : List Warning)
    (rest : Comes background (activity.step background store) last) :
    Comes background (.next store activity warnings) last :=
  .next store activity warnings (show turn? background store activity .proceed = _ from rfl) rest

theorem comes_next (alone : goesByItself activity = true) :
    Comes background (.next store activity warnings) last ↔ Comes background (activity.step background store) last := by
  constructor
  · intro comes
    cases comes with
    | rests rests => cases rests
    | next _ _ _ chosen rest => exact turn_of_goesByItself alone chosen ▸ rest
  · exact .of_step store activity warnings

/-- A refused job is forgotten, and the mark of its path is taken back. -/
theorem comes_enqueue (refuses : store.Refuses background) (job : Job κ) (giving : Giving) :
    Comes background (.next store (.enqueue job giving) warnings) last ↔
      Comes background (giving.give (store.release job.request.path) false []) last := by
  rw [comes_next rfl]
  rcases refuses.enqueue job with refused | refused <;> simp only [Activity.step, refused] <;> rw [comes_next rfl] <;>
    rfl

theorem comes_marked (refuses : store.Refuses background) (job : Job κ) (giving : Giving)
    (free : store.isParsing job.request.path = false) (nothing : store.pending.get? job.request.path = none) :
    Comes background (.next (store.mark job.request.path) (.enqueue job giving) warnings) last ↔
      Comes background (giving.give store false []) last := by
  have refuses : (store.mark job.request.path).Refuses background := by rwa [Store.Refuses, queue_mark]
  rw [comes_enqueue refuses, Store.release_mark free nothing]

theorem comes_admitParse (refuses : store.Refuses background) {job : Job κ} (giving : Giving)
    (tidy : store.isParsing job.request.path = false → store.pending.get? job.request.path = none) :
    Comes background ((Activity.admitParse job giving).step background store) last ↔
      Comes background (giving.give
        (if (store.peek job.request.path).isNone && store.isParsing job.request.path then store.record job.request
          else store) false []) last := by
  rcases admitParse_cases store job.request with ⟨handle, found, told⟩ | ⟨absent, marked, told⟩ | ⟨absent, free, told⟩
  · simp [Activity.step, told, found]
  · simp [Activity.step, told, absent, marked]
  · simp [Activity.step, told, free, comes_marked refuses { job with kind := .parse } giving free (tidy free)]

theorem comes_admitReparse (refuses : store.Refuses background) {job : Job κ} (giving : Giving)
    (tidy : store.isParsing job.request.path = false → store.pending.get? job.request.path = none) :
    Comes background ((Activity.admitReparse job giving).step background store) last ↔
      Comes background (giving.give store false []) last := by
  rcases admitReparse_cases store job.request.path with ⟨_, told⟩ | ⟨_, free, told⟩
  · simp [Activity.step, told]
  · simp [Activity.step, told, comes_marked refuses { job with kind := .reparse } giving free (tidy free)]

theorem comes_settle (refuses : store.Refuses background) {request put : Request} (built : Option Handle)
    (same : (put.path == request.path) = true) (waits : store.pending.get? request.path = some put)
    (stale : ∀ handle, store.peek request.path = some handle → handle.request.serves put = false) :
    Comes background ((Activity.settle (.first request) built).step background store) last ↔
      last = .done (store.release request.path) (.unit built) [] := by
  simp only [Activity.step, Owner.path?, Store.settle_unserved waits stale, Owner.takeOver]
  rw [comes_enqueue (by exact refuses)]
  dsimp only
  rw [Store.release_given store same]
  exact comes_of_rests rfl

/-- A client finds its unit built otherwise and takes it out, and the job that is to build it anew is refused. -/
theorem comes_stale (refuses : store.Refuses background) {request : Request} {stale : Handle}
    (found : store.peek request.path = some stale) (unfit : stale.request.serves request = false)
    (free : store.isParsing request.path = false) (nothing : store.pending.get? request.path = none) :
    Comes background ((Activity.lookUp request).step background store) last ↔
      last = .done ((store.evict request.path).count fun counters =>
        { counters with invalidations := counters.invalidations + 1 }) (.unit (some stale)) [] := by
  have looked : store.lookUp request = (.stale stale, store.evict request.path) := by
    simp [Store.lookUp, found, unfit]
  simp only [Activity.step, looked]
  rw [comes_next rfl]
  simp only [Activity.step]
  rw [comes_next rfl, comes_admitParse (by exact refuses) _ (by exact fun _ => nothing)]
  have unmarked : ((store.evict request.path).count fun counters =>
      { counters with invalidations := counters.invalidations + 1 }).isParsing request.path = false := free
  simp only [unmarked, Bool.and_false, Bool.false_eq_true, if_false]
  exact comes_of_rests rfl

theorem comes_first {request : Request} (absent : store.peek request.path = none)
    (free : store.isParsing request.path = false) :
    Comes background ((Activity.lookUp request).step background store) (.engine (.parse request store.flags)) := by
  have looked : store.lookUp request = (.first, store.mark request.path) := by simp [Store.lookUp, absent, free]
  have flags : (store.mark request.path).flags = store.flags := by
    obtain ⟨_, same⟩ := mark_eq store request.path
    rw [same]
  simp only [Activity.step, looked]
  rw [comes_next rfl]
  refine .of_step _ _ _ ?_
  simp only [Activity.step, Store.count, flags]
  exact .rests rfl

theorem comes_keep (refuses : store.Refuses background) {request put : Request} (artifact : α)
    (same : (put.path == request.path) = true) (waits : store.pending.get? request.path = some put)
    (unfit : request.serves put = false) :
    Comes background ((Activity.parsing request (.first request)).afterParse store (.ok artifact)) last ↔
      last = .done ((store.keep request artifact).2.release request.path)
        (.unit (some (store.keep request artifact).1)) [] := by
  have there : (store.keep request artifact).2.peek request.path = some (store.keep request artifact).1 := by
    simp [Store.peek, Store.keep, PathMap.get?_insert]
  simp only [Activity.afterParse]
  rw [comes_next rfl]
  simp only [Activity.step, Owner.afterBuild]
  rw [comes_next rfl]
  refine comes_settle (by exact refuses) _ same waits fun handle found => ?_
  cases there.symm.trans found
  exact unfit

theorem comes_fail (refuses : store.Refuses background) {request put : Request} (error : Error)
    (same : (put.path == request.path) = true) (waits : store.pending.get? request.path = some put)
    (absent : store.peek request.path = none) :
    Comes background ((Activity.parsing request (.first request)).afterParse store (.error error)) last ↔
      last = .done ((store.count fun counters =>
        { counters with failures := counters.failures + 1 }).release request.path) (.unit none) [] := by
  simp only [Activity.afterParse]
  rw [comes_next rfl]
  simp only [Activity.step, Owner.afterBuild]
  rw [comes_next rfl]
  refine comes_settle (by exact refuses) _ same waits fun handle found => ?_
  cases absent.symm.trans found

end Turns

section Runs

variable {flags : ParseFlags} {capacity : Nat} {roles : List Role} {history : List (Moment α κ)} {system : System α κ}

/-- Nothing is put down for a path without a mark. -/
theorem Run.pending_of_free (run : Run flags capacity roles history system) {path : Path}
    (free : system.store.isParsing path = false) : system.store.pending.get? path = none := by
  have marked := (run.course path).marked_of_pending
  rw [← Option.not_isSome_iff_eq_none]
  intro put
  exact Bool.false_ne_true (free.symm.trans (marked put))

/-- A job that the queue refuses leaves no trace. Whoever wants to queue it is told so and finds the store as it was,
unless the job was not needed, since it only puts its request down for the owner of the mark then. A client that wants a
unit built otherwise still gets the old one, which is taken out, and the next one for that path has the engine build
the unit. A client that comes first and cannot hand on what was put down for its path is left with what it built itself,
and leaves neither the mark nor the request. -/
theorem refused_jobs_leave_no_trace (run : Run flags capacity roles history system) {background : Bool}
    (refuses : system.store.Refuses background) :
    (∀ (job : Job κ) (last : Turn α κ),
      Comes background ((Activity.admitParse job .queued).step background system.store) last ↔
        last = .done (if (system.store.peek job.request.path).isNone && system.store.isParsing job.request.path then
          system.store.record job.request else system.store) (.queued false) []) ∧
    (∀ (job : Job κ) (last : Turn α κ),
      Comes background ((Activity.admitReparse job .queued).step background system.store) last ↔
        last = .done system.store (.queued false) []) ∧
    (∀ request stale, system.store.peek request.path = some stale → stale.request.serves request = false →
      system.store.isParsing request.path = false →
      let dropped := (system.store.evict request.path).count fun counters =>
        { counters with invalidations := counters.invalidations + 1 }
      (∀ last : Turn α κ, Comes background ((Activity.lookUp request).step background system.store) last ↔
        last = .done dropped (.unit (some stale)) []) ∧
      ∀ again nextBackground, (again.path == request.path) = true →
        Comes nextBackground ((Activity.lookUp again).step nextBackground dropped)
          (.engine (.parse again system.store.flags))) ∧
    (∀ frame ∈ system.frames, ∀ request put, frame.activity = .parsing request (.first request) →
      system.store.pending.get? request.path = some put →
      (∀ artifact, request.serves put = false → ∀ last : Turn α κ,
        Comes background (frame.activity.afterParse system.store (.ok artifact)) last ↔
          last = .done ((system.store.keep request artifact).2.release request.path)
            (.unit (some (system.store.keep request artifact).1)) []) ∧
      ∀ error, ∀ last : Turn α κ, Comes background (frame.activity.afterParse system.store (.error error)) last ↔
        last = .done ((system.store.count fun counters =>
          { counters with failures := counters.failures + 1 }).release request.path) (.unit none) []) ∧
    (∀ frame ∈ system.frames, ∀ request put built, frame.activity = .settle (.first request) built →
      system.store.pending.get? request.path = some put →
      (∀ handle, system.store.peek request.path = some handle → handle.request.serves put = false) →
      ∀ last : Turn α κ, Comes background (frame.activity.step background system.store) last ↔
        last = .done (system.store.release request.path) (.unit built) []) := by
  have keyed (request put : Request) (waits : system.store.pending.get? request.path = some put) :
      (put.path == request.path) = true := run.sound.1.keyed.pending _ _ waits
  refine ⟨fun job last => ?_, fun job last => ?_, ?_, ?_, ?_⟩
  · rw [comes_admitParse refuses .queued run.pending_of_free]
    exact comes_of_rests rfl
  · rw [comes_admitReparse refuses .queued run.pending_of_free]
    exact comes_of_rests rfl
  · intro request stale found unfit free
    refine ⟨fun last => comes_stale refuses found unfit free (run.pending_of_free free), fun again other same => ?_⟩
    refine comes_first ?_ (by exact (system.store.parsing.contains_congr same).trans free)
    simp [Store.peek, Store.count, Store.evict, PathMap.get?_erase, BEq.symm same]
  · intro frame inside request put activity waits
    have stake : frame.stake? = some (request.path, .building request frame.number) := by
      simp [Frame.stake?, activity, Owner.path?]
    have absent : system.store.peek request.path = none := run.clear inside stake BEq.rfl
    rw [activity]
    exact ⟨fun artifact unfit last => comes_keep refuses artifact (keyed _ _ waits) waits unfit,
      fun error last => comes_fail refuses error (keyed _ _ waits) waits absent⟩
  · intro frame inside request put built activity waits stale last
    rw [activity]
    exact comes_settle refuses built (keyed _ _ waits) waits stale

end Runs

/-- A unit is built, and then a job is queued for which there is room, and no more. -/
def fillsQueue : List (Move Unit Unit) :=
  [.thread 0 (.call (.getUnit ⟨⟨"a.c"⟩, ["-O2"], none⟩)), .thread 0 .proceed, .thread 0 .proceed,
    .thread 0 (.parsed (.ok ())), .thread 0 .proceed, .thread 0 .proceed,
    .thread 0 (.call (.addParse { request := ⟨⟨"b.c"⟩, [], none⟩ })), .thread 0 .proceed, .thread 0 .proceed]

theorem stale_unit_is_given_without_a_job :
    ∃ (history : List (Moment Unit Unit)) (system : System Unit Unit), Run ⟨0⟩ 1 [.client] history system ∧
      system.store.Refuses true ∧
      ∀ last : Turn Unit Unit,
        Comes true ((Activity.lookUp ⟨⟨"a.c"⟩, ["-O3"], none⟩).step true system.store) last ↔
          last = .done ((system.store.evict ⟨"a.c"⟩).count fun counters =>
            { counters with invalidations := counters.invalidations + 1 })
            (.unit (some ⟨0, ⟨⟨"a.c"⟩, ["-O2"], none⟩⟩)) [] := by
  obtain ⟨history, system, run, checked⟩ := Run.of_follow ⟨0⟩ 1 [.client] fillsQueue
    (fun _ system => system.store.queue.capacity ≤ system.store.queue.jobs.length &&
      system.store.peek ⟨"a.c"⟩ == some ⟨0, ⟨⟨"a.c"⟩, ["-O2"], none⟩⟩ && !system.store.isParsing ⟨"a.c"⟩) (by decide)
  obtain ⟨⟨full, found⟩, free⟩ : (system.store.queue.capacity ≤ system.store.queue.jobs.length ∧
      system.store.peek ⟨"a.c"⟩ = some ⟨0, ⟨⟨"a.c"⟩, ["-O2"], none⟩⟩) ∧
      system.store.isParsing ⟨"a.c"⟩ = false := by
    simpa using checked
  have refuses : system.store.Refuses true := .inr ⟨rfl, full⟩
  obtain ⟨_, _, stale, _⟩ := refused_jobs_leave_no_trace run refuses
  exact ⟨history, system, run, refuses, (stale ⟨⟨"a.c"⟩, ["-O3"], none⟩ _ found (by decide) free).1⟩

end Interleaving
end UnitCache
