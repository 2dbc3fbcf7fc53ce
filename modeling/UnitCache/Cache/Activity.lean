import UnitCache.Cache.Store
import UnitCache.Completion.Result
import UnitCache.Query
/-!
What a thread of the cache is doing. An operation is a row of activities, each of which is done at one go; between
two of them other threads may do theirs. At some of them the thread waits, for room in the queue or for a unit that
is in use, and at some it is outside the cache, in the engine or in a callback.
-/
namespace UnitCache

/-- For whom a unit is built, built anew or looked after. -/
inductive Owner (κ : Type) where
  | first (request : Request)
  | job (job : Job κ)
  | alone
  deriving Inhabited

def Owner.path? {κ : Type} : Owner κ → Option Path
  | .first request => some request.path
  | .job work => some work.request.path
  | .alone => none

/-- What a call gives back once its job is queued or refused. -/
inductive Giving where
  | queued
  | unit (handle : Option Handle)
  /-- Nothing yet: there are more units to build anew. -/
  | refreshing (left : List Request) (queued : Nat)
  deriving Inhabited

inductive Use (κ : Type) where
  | refresh (request : Request) (owner : Owner κ)
  | query (line column : UInt32)
  | reparse (flags : ParseFlags)
  | complete (line column : UInt32) (flags : ParseFlags)
  | hold
  deriving Inhabited

inductive Activity (α κ : Type) where
  | lookUp (request : Request)
  /-- Count that a unit was built otherwise than a client wants it. -/
  | dropStale (request : Request) (stale : Handle)
  | admitParse (job : Job κ) (giving : Giving)
  /-- Mark a path for a job that is to build its unit anew. -/
  | admitReparse (job : Job κ) (giving : Giving)
  | collect
  | refreshNext (left : List Request) (queued : Nat)
  | enqueue (job : Job κ) (giving : Giving)
  /-- Take the mark of a job back that was refused. -/
  | withdraw (path : Path) (giving : Giving)
  | load (request : Request) (owner : Owner κ)
  /-- Count that a unit was built otherwise than its owner wants it. -/
  | dropReplaced (request : Request) (owner : Owner κ)
  | build (request : Request) (owner : Owner κ)
  | parsing (request : Request) (owner : Owner κ)
  | keep (request : Request) (artifact : α) (owner : Owner κ)
  | noteFailure (request : Request) (error : Error) (owner : Owner κ)
  | settle (owner : Owner κ) (built : Option Handle)
  | find (request : Request) (owner : Owner κ)
  | acquire (handle : Handle) (use : Use κ)
  | using (handle : Handle) (use : Use κ)
  /-- Count that a unit was built anew, or that this failed. -/
  | noteReparse (handle : Handle) (request : Request) (failure : Option Error) (owner : Owner κ)
  | noteReparseFailure (handle : Handle) (request : Request) (error : Error) (owner : Owner κ)
  | evict (handle : Handle) (owner : Owner κ)
  | calling (callback : κ)
  | unwind (path : Path)
  | ask (query : CompletionQuery)
  deriving Inhabited

inductive Outcome where
  | unit (handle : Option Handle)
  | queued (accepted : Bool)
  | refreshed (queued : Nat)
  /-- A job was run, or a unit looked after. -/
  | ran
  | completed (result : Except Error CompletionResult)
  | reparsed (result : Except Error Unit)
  | candidates (result : Except Error (List Candidate))
  | held
  | panicked
  deriving Inhabited

inductive EngineCall where
  | parse (request : Request) (flags : ParseFlags)
  | reparse (handle : Handle) (flags : ParseFlags)
  | complete (handle : Handle) (line column : UInt32) (flags : ParseFlags)
  deriving Inhabited

inductive Turn (α κ : Type) where
  | next (store : Store α κ) (activity : Activity α κ) (warnings : List Warning)
  | done (store : Store α κ) (outcome : Outcome) (warnings : List Warning)
  | engine (call : EngineCall)
  | callback (callback : κ)
  | waits

inductive Answer (β : Type) where
  | ok (value : β)
  | error (error : Error)
  | panic
  deriving Inhabited

def Answer.map {β γ : Type} (change : β → γ) : Answer β → Answer γ
  | .ok value => .ok (change value)
  | .error failure => .error failure
  | .panic => .panic

namespace Owner

variable {α κ : Type}

def afterBuild (owner : Owner κ) (store : Store α κ) (built : Option Handle) (warnings : List Warning) :
    Turn α κ :=
  match owner with
  | .first _ => .next store (.settle owner built) warnings
  | .job _ => .next store (.settle owner none) warnings
  | .alone => .done store (.unit built) warnings

/-- Goes on once a unit was built anew, or there was none to build. -/
def afterRefresh (owner : Owner κ) (store : Store α κ) (warnings : List Warning) : Turn α κ :=
  match owner with
  | .alone => .done store .ran warnings
  | owner => .next store (.settle owner none) warnings

def afterPanic (owner : Owner κ) (store : Store α κ) : Turn α κ :=
  match owner.path? with
  | some path => .next store (.unwind path) []
  | none => .done store .panicked []

def finish (owner : Owner κ) (store : Store α κ) (built : Option Handle) : Turn α κ :=
  match owner with
  | .job work =>
    match work.callback with
    | some callback => .next store (.calling callback) []
    | none => .done store .ran []
  | _ => .done store (.unit built) []

/-- Goes on with a request that was put down: a job builds it itself, a client leaves it to a job. -/
def takeOver (owner : Owner κ) (store : Store α κ) (built : Option Handle) (request : Request) : Turn α κ :=
  match owner with
  | .job _ => .next store (.load request owner) []
  | _ => .next store (.enqueue { request } (.unit built)) []

end Owner

namespace Giving

variable {α κ : Type}

def give (giving : Giving) (store : Store α κ) (accepted : Bool) (warnings : List Warning) : Turn α κ :=
  match giving with
  | .queued => .done store (.queued accepted) warnings
  | .unit handle => .done store (.unit handle) warnings
  | .refreshing left count => .next store (.refreshNext left (if accepted then count + 1 else count)) warnings

end Giving

def queryError (error : Error) : Error := if error.kind == .completion then error else .notValid error

namespace Activity

variable {α κ : Type}

def ofJob (job : Job κ) : Activity α κ :=
  match job.kind with
  | .parse => .load job.request (.job job)
  | .reparse => .find job.request (.job job)

/-- The warning that contents not saved to the file are not looked at; a file is counted once. -/
def unsavedWarnings (request : Request) (unsaved : List Path) : List Warning :=
  let files : PathSet := unsaved.foldl (fun files path => files.insert path ()) {}
  if files.size == 0 then [] else [.unsavedIgnored files.size request.path]

def callFor (store : Store α κ) (handle : Handle) : Use κ → Option EngineCall
  | .refresh .. => some (.reparse handle store.flags)
  | .query line column => some (.complete handle line column store.flags)
  | .reparse flags => some (.reparse handle flags)
  | .complete line column flags => some (.complete handle line column flags)
  | .hold => none

/-- Does an activity at one go. `background` tells whether the thread is one of the cache itself. -/
def step (background : Bool) (store : Store α κ) : Activity α κ → Turn α κ
  | .lookUp request =>
    match store.lookUp request with
    | (.hit handle, store) => .done store (.unit (some handle)) []
    | (.stale handle, store) => .next store (.dropStale request handle) []
    | (.busy, store) => .done store (.unit none) []
    | (.first, store) => .next store (.build request (.first request)) []
  | .dropStale request stale =>
    let store := store.count fun counters => { counters with invalidations := counters.invalidations + 1 }
    .next store (.admitParse { request } (.unit (some stale))) []
  | .admitParse job giving =>
    match store.admitParse job.request with
    | (true, store) => .next store (.enqueue { job with kind := .parse } giving) []
    | (false, store) => giving.give store false []
  | .admitReparse job giving =>
    match store.admitReparse job.request.path with
    | (true, store) => .next store (.enqueue { job with kind := .reparse } giving) []
    | (false, store) => giving.give store false []
  | .collect => .next store (.refreshNext store.requests 0) []
  | .refreshNext [] queued => .done store (.refreshed queued) []
  | .refreshNext (request :: left) queued =>
    .next store (.admitReparse { request } (.refreshing left queued)) []
  | .enqueue job giving =>
    match store.enqueue background job with
    | (.accepted, store) => giving.give store true []
    | (.full, store) => .next store (.withdraw job.request.path giving) [.queueFull job.request.path]
    | (.closed, store) => .next store (.withdraw job.request.path giving) []
    | (.waits, _) => .waits
  | .withdraw path giving => giving.give (store.release path) false []
  | .load request owner =>
    match store.takeStock request with
    | (.served handle, store) => owner.afterBuild store (some handle) []
    | (.replaced, store) => .next store (.dropReplaced request owner) []
    | (.absent, store) => .next store (.build request owner) []
  | .dropReplaced request owner =>
    let store := store.count fun counters => { counters with invalidations := counters.invalidations + 1 }
    .next store (.build request owner) []
  | .build request owner =>
    let store := store.count fun counters => { counters with parses := counters.parses + 1 }
    .next store (.parsing request owner) []
  | .parsing request _ => .engine (.parse request store.flags)
  | .keep request artifact owner =>
    let (handle, store) := store.keep request artifact
    owner.afterBuild store (some handle) []
  | .noteFailure request error owner =>
    let store := store.count fun counters => { counters with failures := counters.failures + 1 }
    owner.afterBuild store none [.buildFailed request.path error]
  | .settle owner built =>
    match owner.path? with
    | none => owner.finish store built
    | some path =>
      match store.settle path with
      | (some request, store) => owner.takeOver store built request
      | (none, store) => owner.finish store built
  | .find request owner =>
    match store.peek request.path with
    | some handle =>
      if handle.request.serves request then .next store (.acquire handle (.refresh request owner)) []
      else owner.afterRefresh store []
    | none => owner.afterRefresh store []
  | .acquire handle use =>
    if store.isLocked handle.number then .waits
    else
      match use with
      | .hold => .done (store.lock handle.number) .held []
      | use => .next (store.lock handle.number) (.using handle use) []
  | .using handle use =>
    match callFor store handle use with
    | some call => .engine call
    | none => .done store .held []
  | .noteReparse handle request failure owner =>
    let store := store.count fun counters => { counters with reparses := counters.reparses + 1 }
    match failure with
    | none => owner.afterRefresh store []
    | some error => .next store (.noteReparseFailure handle request error owner) []
  | .noteReparseFailure handle request error owner =>
    let store := store.count fun counters => { counters with failures := counters.failures + 1 }
    .next store (.evict handle owner) [.refreshFailed request.path error]
  | .evict handle owner => owner.afterRefresh (store.evictIfCurrent handle) []
  | .calling callback => .callback callback
  | .unwind path => .done (store.release path) .panicked []
  | .ask query =>
    if query.cursor.file.hasUnsavedContents then .done store (.completed (.error .unsavedFile)) []
    else
      match store.peek query.cursor.file.name with
      | none => .done store (.completed (.ok {})) []
      | some handle => .next store (.acquire handle (.query query.cursor.line query.cursor.column)) []

def afterParse (store : Store α κ) (answer : Answer α) : Activity α κ → Turn α κ
  | .parsing request owner =>
    match answer with
    | .ok artifact => .next store (.keep request artifact owner) []
    | .error error => .next store (.noteFailure request error owner) []
    | .panic => owner.afterPanic store
  | activity => .next store activity []

def afterReparse (store : Store α κ) (answer : Answer α) : Activity α κ → Turn α κ
  | .using handle use =>
    let free := store.unlock handle.number
    let updated :=
      match answer with
      | .ok artifact => free.replaceArtifact handle.number artifact
      | _ => free
    match use, answer with
    | .refresh request owner, .ok _ => .next updated (.noteReparse handle request none owner) []
    | .refresh request owner, .error error => .next updated (.noteReparse handle request (some error) owner) []
    | .refresh _ owner, .panic => owner.afterPanic updated
    | _, .ok _ => .done updated (.reparsed (.ok ())) []
    | _, .error error => .done updated (.reparsed (.error error)) []
    | _, .panic => .done updated .panicked []
  | activity => .next store activity []

/-- Goes on after the engine was asked for candidates; `noted` are its warnings. -/
def afterCompletion (store : Store α κ) (answer : Answer (List Candidate)) (noted : List Warning) :
    Activity α κ → Turn α κ
  | .using handle use =>
    let free := store.unlock handle.number
    match use, answer with
    | .query .., .ok candidates =>
      let (result, warnings) := CompletionResult.ofCandidates candidates
      .done free (.completed (.ok result)) (noted ++ warnings)
    | .query .., .error error => .done free (.completed (.error (queryError error))) noted
    | _, .ok candidates => .done free (.candidates (.ok candidates)) noted
    | _, .error error => .done free (.candidates (.error error)) noted
    | _, .panic => .done free .panicked noted
  | activity => .next store activity []

def afterCallback (store : Store α κ) (panicked : Bool) : Turn α κ :=
  .done store (if panicked then .panicked else .ran) []

def handles : Activity α κ → List Handle
  | .dropStale _ stale => [stale]
  | .admitParse _ giving | .admitReparse _ giving | .enqueue _ giving | .withdraw _ giving =>
    match giving with
    | .unit (some handle) => [handle]
    | _ => []
  | .settle _ (some built) => [built]
  | .acquire handle _ | .using handle _ | .noteReparse handle .. | .noteReparseFailure handle ..
  | .evict handle _ => [handle]
  | _ => []

end Activity

end UnitCache
