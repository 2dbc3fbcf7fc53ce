import UnitCache.Proofs.Interleaving
import UnitCache.Proofs.View
/-!
The ways in which a frame goes on, one rule for each: what its activity meets in the store, or how the engine or a
callback answers it, and the turn that comes of it. Whatever holds of all turns is proved by going through the rules.
-/
namespace UnitCache.Interleaving

variable {α κ : Type}

/-- What comes of an activity in a store, as its thread is chosen to go on. -/
inductive Rule (background : Bool) (store : Store α κ) : Activity α κ → Choice α κ → Turn α κ → Prop where
  | hit (request : Request) (handle : Handle) (found : store.peek request.path = some handle)
      (serves : handle.request.serves request = true) :
      Rule background store (.lookUp request) .proceed (.done store (.unit (some handle)) [])
  | stale (request : Request) (handle : Handle) (found : store.peek request.path = some handle)
      (unfit : handle.request.serves request = false) :
      Rule background store (.lookUp request) .proceed
        (.next (store.evict request.path) (.dropStale request handle) [])
  | busy (request : Request) (absent : store.peek request.path = none) (marked : store.isParsing request.path = true) :
      Rule background store (.lookUp request) .proceed (.done (store.record request) (.unit none) [])
  | first (request : Request) (absent : store.peek request.path = none) (free : store.isParsing request.path = false) :
      Rule background store (.lookUp request) .proceed
        (.next (store.mark request.path) (.build request (.first request)) [])
  | dropStale (request : Request) (handle : Handle) :
      Rule background store (.dropStale request handle) .proceed
        (.next (store.count fun counters => { counters with invalidations := counters.invalidations + 1 })
          (.admitParse { request } (.unit (some handle))) [])
  | present (job : Job κ) (giving : Giving) (handle : Handle) (found : store.peek job.request.path = some handle) :
      Rule background store (.admitParse job giving) .proceed (giving.give store false [])
  | record (job : Job κ) (giving : Giving) (absent : store.peek job.request.path = none)
      (marked : store.isParsing job.request.path = true) :
      Rule background store (.admitParse job giving) .proceed (giving.give (store.record job.request) false [])
  | parse (job : Job κ) (giving : Giving) (absent : store.peek job.request.path = none)
      (free : store.isParsing job.request.path = false) :
      Rule background store (.admitParse job giving) .proceed
        (.next (store.mark job.request.path) (.enqueue { job with kind := .parse } giving) [])
  | spare (job : Job κ) (giving : Giving)
      (needless : store.peek job.request.path = none ∨ store.isParsing job.request.path = true) :
      Rule background store (.admitReparse job giving) .proceed (giving.give store false [])
  | reparse (job : Job κ) (giving : Giving) (there : (store.peek job.request.path).isSome = true)
      (free : store.isParsing job.request.path = false) :
      Rule background store (.admitReparse job giving) .proceed
        (.next (store.mark job.request.path) (.enqueue { job with kind := .reparse } giving) [])
  | accepted (job : Job κ) (giving : Giving) (queued : (store.enqueue background job).1 = .accepted) :
      Rule background store (.enqueue job giving) .proceed
        (giving.give { store with queue := { store.queue with jobs := store.queue.jobs ++ [job] } } true [])
  | full (job : Job κ) (giving : Giving) (queued : (store.enqueue background job).1 = .full) :
      Rule background store (.enqueue job giving) .proceed
        (.next store (.withdraw job.request.path giving) [.queueFull job.request.path])
  | closed (job : Job κ) (giving : Giving) (queued : (store.enqueue background job).1 = .closed) :
      Rule background store (.enqueue job giving) .proceed (.next store (.withdraw job.request.path giving) [])
  | awaitRoom (job : Job κ) (giving : Giving) (queued : (store.enqueue background job).1 = .waits) :
      Rule background store (.enqueue job giving) .proceed .waits
  | withdraw (path : Path) (giving : Giving) :
      Rule background store (.withdraw path giving) .proceed (giving.give (store.release path) false [])
  | collect : Rule background store .collect .proceed (.next store (.refreshNext store.requests 0) [])
  | refreshed (queued : Nat) :
      Rule background store (.refreshNext [] queued) .proceed (.done store (.refreshed queued) [])
  | refreshNext (request : Request) (left : List Request) (queued : Nat) :
      Rule background store (.refreshNext (request :: left) queued) .proceed
        (.next store (.admitReparse { request } (.refreshing left queued)) [])
  | reorder (requests left : List Request) (queued : Nat) (same : requests.isPerm left = true) :
      Rule background store (.refreshNext requests queued) (.reorder left) (.next store (.refreshNext left queued) [])
  | served (request : Request) (owner : Owner κ) (handle : Handle) (found : store.peek request.path = some handle)
      (serves : handle.request.serves request = true) :
      Rule background store (.load request owner) .proceed (owner.afterBuild store (some handle) [])
  | replaced (request : Request) (owner : Owner κ) (handle : Handle) (found : store.peek request.path = some handle)
      (unfit : handle.request.serves request = false) :
      Rule background store (.load request owner) .proceed
        (.next (store.evict request.path) (.dropReplaced request owner) [])
  | absent (request : Request) (owner : Owner κ) (absent : store.peek request.path = none) :
      Rule background store (.load request owner) .proceed (.next store (.build request owner) [])
  | dropReplaced (request : Request) (owner : Owner κ) :
      Rule background store (.dropReplaced request owner) .proceed
        (.next (store.count fun counters => { counters with invalidations := counters.invalidations + 1 })
          (.build request owner) [])
  | build (request : Request) (owner : Owner κ) :
      Rule background store (.build request owner) .proceed
        (.next (store.count fun counters => { counters with parses := counters.parses + 1 })
          (.parsing request owner) [])
  | askParse (request : Request) (owner : Owner κ) :
      Rule background store (.parsing request owner) .proceed (.engine (.parse request store.flags))
  | parsed (request : Request) (owner : Owner κ) (artifact : α) :
      Rule background store (.parsing request owner) (.parsed (.ok artifact))
        (.next store (.keep request artifact owner) [])
  | parseFailed (request : Request) (owner : Owner κ) (error : Error) :
      Rule background store (.parsing request owner) (.parsed (.error error))
        (.next store (.noteFailure request error owner) [])
  | parsePanicked (request : Request) (owner : Owner κ) :
      Rule background store (.parsing request owner) (.parsed .panic) (owner.afterPanic store)
  | keep (request : Request) (artifact : α) (owner : Owner κ) :
      Rule background store (.keep request artifact owner) .proceed
        (owner.afterBuild (store.keep request artifact).2 (some (store.keep request artifact).1) [])
  | noteFailure (request : Request) (error : Error) (owner : Owner κ) :
      Rule background store (.noteFailure request error owner) .proceed
        (owner.afterBuild (store.count fun counters => { counters with failures := counters.failures + 1 }) none
          [.buildFailed request.path error])
  | settleAlone (owner : Owner κ) (built : Option Handle) (alone : owner.path? = none) :
      Rule background store (.settle owner built) .proceed (owner.finish store built)
  | settle (owner : Owner κ) (built : Option Handle) (path : Path) (owned : owner.path? = some path)
      (kept : (store.settle path).1 = none) :
      Rule background store (.settle owner built) .proceed (owner.finish (store.settle path).2 built)
  | takeOver (owner : Owner κ) (built : Option Handle) (path : Path) (request : Request)
      (owned : owner.path? = some path) (given : (store.settle path).1 = some request) :
      Rule background store (.settle owner built) .proceed (owner.takeOver (store.settle path).2 built request)
  | unwind (path : Path) : Rule background store (.unwind path) .proceed (.done (store.release path) .panicked [])
  | call (callback : κ) : Rule background store (.calling callback) .proceed (.callback callback)
  | returned (callback : κ) (panicked : Bool) :
      Rule background store (.calling callback) (.returned panicked)
        (.done store (if panicked then .panicked else .ran) [])
  | find (request : Request) (owner : Owner κ) (handle : Handle) (found : store.peek request.path = some handle)
      (serves : handle.request.serves request = true) :
      Rule background store (.find request owner) .proceed (.next store (.acquire handle (.refresh request owner)) [])
  | findNothing (request : Request) (owner : Owner κ)
      (missing : ∀ handle, store.peek request.path = some handle → handle.request.serves request = false) :
      Rule background store (.find request owner) .proceed (owner.afterRefresh store [])
  | askUnsaved (query : CompletionQuery) (unsaved : query.cursor.file.hasUnsavedContents = true) :
      Rule background store (.ask query) .proceed (.done store (.completed (.error .unsavedFile)) [])
  | askNothing (query : CompletionQuery) (saved : query.cursor.file.hasUnsavedContents = false)
      (absent : store.peek query.cursor.file.name = none) :
      Rule background store (.ask query) .proceed (.done store (.completed (.ok {})) [])
  | ask (query : CompletionQuery) (handle : Handle) (saved : query.cursor.file.hasUnsavedContents = false)
      (found : store.peek query.cursor.file.name = some handle) :
      Rule background store (.ask query) .proceed
        (.next store (.acquire handle (.query query.cursor.line query.cursor.column)) [])
  | awaitUnit (handle : Handle) (use : Use κ) (taken : store.isLocked handle.number = true) :
      Rule background store (.acquire handle use) .proceed .waits
  | hold (handle : Handle) (free : store.isLocked handle.number = false) :
      Rule background store (.acquire handle .hold) .proceed (.done (store.lock handle.number) .held [])
  | acquire (handle : Handle) (use : Use κ) (free : store.isLocked handle.number = false) (other : use ≠ .hold) :
      Rule background store (.acquire handle use) .proceed
        (.next (store.lock handle.number) (.using handle use) [])
  | askUse (handle : Handle) (use : Use κ) (call : EngineCall) (asks : Activity.callFor store handle use = some call) :
      Rule background store (.using handle use) .proceed (.engine call)
  | held (handle : Handle) : Rule background store (.using handle .hold) .proceed (.done store .held [])
  | refreshDone (handle : Handle) (request : Request) (owner : Owner κ) (artifact : α) :
      Rule background store (.using handle (.refresh request owner)) (.reparsed (.ok artifact))
        (.next ((store.unlock handle.number).replaceArtifact handle.number artifact)
          (.noteReparse handle request none owner) [])
  | refreshFailed (handle : Handle) (request : Request) (owner : Owner κ) (error : Error) :
      Rule background store (.using handle (.refresh request owner)) (.reparsed (.error error))
        (.next (store.unlock handle.number) (.noteReparse handle request (some error) owner) [])
  | refreshPanicked (handle : Handle) (request : Request) (owner : Owner κ) :
      Rule background store (.using handle (.refresh request owner)) (.reparsed .panic)
        (owner.afterPanic (store.unlock handle.number))
  | reparseDone (handle : Handle) (flags : ParseFlags) (artifact : α) :
      Rule background store (.using handle (.reparse flags)) (.reparsed (.ok artifact))
        (.done ((store.unlock handle.number).replaceArtifact handle.number artifact) (.reparsed (.ok ())) [])
  | reparseFailed (handle : Handle) (flags : ParseFlags) (error : Error) :
      Rule background store (.using handle (.reparse flags)) (.reparsed (.error error))
        (.done (store.unlock handle.number) (.reparsed (.error error)) [])
  | reparsePanicked (handle : Handle) (flags : ParseFlags) :
      Rule background store (.using handle (.reparse flags)) (.reparsed .panic)
        (.done (store.unlock handle.number) .panicked [])
  | queryDone (handle : Handle) (line column : UInt32) (candidates : List Candidate) (noted : List Warning) :
      Rule background store (.using handle (.query line column)) (.completed (.ok candidates) noted)
        (.done (store.unlock handle.number) (.completed (.ok (CompletionResult.ofCandidates candidates).1))
          (noted ++ (CompletionResult.ofCandidates candidates).2))
  | queryFailed (handle : Handle) (line column : UInt32) (error : Error) (noted : List Warning) :
      Rule background store (.using handle (.query line column)) (.completed (.error error) noted)
        (.done (store.unlock handle.number) (.completed (.error (queryError error))) noted)
  | queryPanicked (handle : Handle) (line column : UInt32) (noted : List Warning) :
      Rule background store (.using handle (.query line column)) (.completed .panic noted)
        (.done (store.unlock handle.number) .panicked noted)
  | completeDone (handle : Handle) (line column : UInt32) (flags : ParseFlags) (candidates : List Candidate)
      (noted : List Warning) :
      Rule background store (.using handle (.complete line column flags)) (.completed (.ok candidates) noted)
        (.done (store.unlock handle.number) (.candidates (.ok candidates)) noted)
  | completeFailed (handle : Handle) (line column : UInt32) (flags : ParseFlags) (error : Error)
      (noted : List Warning) :
      Rule background store (.using handle (.complete line column flags)) (.completed (.error error) noted)
        (.done (store.unlock handle.number) (.candidates (.error error)) noted)
  | completePanicked (handle : Handle) (line column : UInt32) (flags : ParseFlags) (noted : List Warning) :
      Rule background store (.using handle (.complete line column flags)) (.completed .panic noted)
        (.done (store.unlock handle.number) .panicked noted)
  | noteReparse (handle : Handle) (request : Request) (owner : Owner κ) :
      Rule background store (.noteReparse handle request none owner) .proceed
        (owner.afterRefresh (store.count fun counters => { counters with reparses := counters.reparses + 1 }) [])
  | noteReparseFailed (handle : Handle) (request : Request) (error : Error) (owner : Owner κ) :
      Rule background store (.noteReparse handle request (some error) owner) .proceed
        (.next (store.count fun counters => { counters with reparses := counters.reparses + 1 })
          (.noteReparseFailure handle request error owner) [])
  | noteReparseFailure (handle : Handle) (request : Request) (error : Error) (owner : Owner κ) :
      Rule background store (.noteReparseFailure handle request error owner) .proceed
        (.next (store.count fun counters => { counters with failures := counters.failures + 1 })
          (.evict handle owner) [.refreshFailed request.path error])
  | evict (handle : Handle) (owner : Owner κ) :
      Rule background store (.evict handle owner) .proceed (owner.afterRefresh (store.evictIfCurrent handle) [])

section Turns

variable {background : Bool} {store : Store α κ} {activity : Activity α κ} {turn : Turn α κ}

theorem rule_of_step (background : Bool) (store : Store α κ) (activity : Activity α κ) :
    Rule background store activity .proceed (activity.step background store) := by
  cases activity with
  | lookUp request =>
    rcases lookUp_cases store request with ⟨handle, found, serves, looked⟩ | ⟨handle, found, unfit, looked⟩ |
      ⟨absent, marked, looked⟩ | ⟨absent, free, looked⟩ <;> simp only [Activity.step, looked]
    · exact .hit request handle found serves
    · exact .stale request handle found unfit
    · exact .busy request absent marked
    · exact .first request absent free
  | dropStale request handle => exact .dropStale request handle
  | admitParse job giving =>
    rcases admitParse_cases store job.request with ⟨handle, found, told⟩ | ⟨absent, marked, told⟩ |
      ⟨absent, free, told⟩ <;> simp only [Activity.step, told]
    · exact .present job giving handle found
    · exact .record job giving absent marked
    · exact .parse job giving absent free
  | admitReparse job giving =>
    rcases admitReparse_cases store job.request.path with ⟨needless, told⟩ | ⟨there, free, told⟩ <;>
      simp only [Activity.step, told]
    · exact .spare job giving needless
    · exact .reparse job giving there free
  | collect => exact .collect
  | refreshNext requests queued =>
    cases requests with
    | nil => exact .refreshed queued
    | cons request left => exact .refreshNext request left queued
  | enqueue job giving =>
    rcases enqueue_cases store background job with queued | queued | queued | queued <;>
      simp only [Activity.step, queued]
    · exact .accepted job giving (by rw [queued])
    · exact .full job giving (by rw [queued])
    · exact .closed job giving (by rw [queued])
    · exact .awaitRoom job giving (by rw [queued])
  | withdraw path giving => exact .withdraw path giving
  | load request owner =>
    rcases takeStock_cases store request with ⟨handle, found, serves, stock⟩ | ⟨handle, found, unfit, stock⟩ |
      ⟨absent, stock⟩ <;> simp only [Activity.step, stock]
    · exact .served request owner handle found serves
    · exact .replaced request owner handle found unfit
    · exact .absent request owner absent
  | dropReplaced request owner => exact .dropReplaced request owner
  | build request owner => exact .build request owner
  | parsing request owner => exact .askParse request owner
  | keep request artifact owner => exact .keep request artifact owner
  | noteFailure request error owner => exact .noteFailure request error owner
  | settle owner built =>
    cases owned : owner.path? with
    | none =>
      simp only [Activity.step, owned]
      exact .settleAlone owner built owned
    | some path =>
      cases settled : store.settle path with
      | mk given after =>
      simp only [Activity.step, owned, settled]
      cases given with
      | none =>
        have rule : Rule background store (.settle owner built) .proceed (owner.finish (store.settle path).2 built) :=
          .settle owner built path owned (by rw [settled])
        rwa [settled] at rule
      | some request =>
        have rule : Rule background store (.settle owner built) .proceed
            (owner.takeOver (store.settle path).2 built request) :=
          .takeOver owner built path request owned (by rw [settled])
        rwa [settled] at rule
  | find request owner =>
    simp only [Activity.step]
    split
    next handle found =>
      split
      next serves => exact .find request owner handle found serves
      next unfit =>
        refine .findNothing request owner fun other same => ?_
        cases found.symm.trans same
        exact Bool.eq_false_iff.mpr unfit
    next absent =>
      refine .findNothing request owner fun other same => ?_
      cases absent.symm.trans same
  | acquire handle use =>
    simp only [Activity.step]
    split
    next taken => exact .awaitUnit handle use taken
    next free =>
      have free : store.isLocked handle.number = false := Bool.eq_false_iff.mpr free
      cases use with
      | hold => exact .hold handle free
      | _ => exact .acquire handle _ free nofun
  | «using» handle use =>
    cases use with
    | hold => exact .held handle
    | _ => exact .askUse handle _ _ rfl
  | noteReparse handle request failure owner =>
    cases failure with
    | none => exact .noteReparse handle request owner
    | some error => exact .noteReparseFailed handle request error owner
  | noteReparseFailure handle request error owner => exact .noteReparseFailure handle request error owner
  | evict handle owner => exact .evict handle owner
  | calling callback => exact .call callback
  | unwind path => exact .unwind path
  | ask query =>
    simp only [Activity.step]
    split
    next unsaved => exact .askUnsaved query unsaved
    next saved =>
      have saved : query.cursor.file.hasUnsavedContents = false := Bool.eq_false_iff.mpr saved
      split
      next absent => exact .askNothing query saved absent
      next handle found => exact .ask query handle saved found

/-- Every turn comes of a rule. -/
theorem rule_of_turn {choice : Choice α κ} (chosen : turn? background store activity choice = some turn) :
    Rule background store activity choice turn := by
  cases choice with
  | proceed =>
    cases chosen
    exact rule_of_step background store activity
  | parsed answer =>
    cases activity <;> cases chosen
    cases answer <;> constructor
  | reparsed answer =>
    cases activity <;> try cases chosen
    case «using» handle use => cases use <;> cases chosen <;> cases answer <;> constructor
  | completed answer noted =>
    cases activity <;> try cases chosen
    case «using» handle use => cases use <;> cases chosen <;> cases answer <;> constructor
  | returned panicked =>
    cases activity <;> cases chosen
    exact .returned _ panicked
  | reorder left =>
    cases activity <;> try cases chosen
    case refreshNext requests queued =>
      simp only [turn?, Option.ite_none_right_eq_some, Option.some.injEq] at chosen
      obtain ⟨same, rfl⟩ := chosen
      exact .reorder requests left queued same
  | _ => cases chosen

end Turns

end UnitCache.Interleaving
