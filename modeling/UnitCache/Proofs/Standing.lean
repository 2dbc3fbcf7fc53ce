import UnitCache.Proofs.Interleaving
/-!
What the moves of a system do to one path. All that threads share about a path is its unit, its mark and the request
put down for it; all that they own of it is the mark, and how far its owner is is a phase. An effect says how a deed
changes these.
-/
namespace UnitCache.Interleaving

variable {α κ : Type}

structure View where
  entry : Option Handle
  marked : Bool
  pending : Option Request

def view (store : Store α κ) (path : Path) : View :=
  ⟨store.peek path, store.isParsing path, store.pending.get? path⟩

/-- How far the owner of a mark is. A frame that builds a unit is told by its number. -/
inductive Phase where
  /-- A request is to be built, by a job that is queued or about to be, or else by a frame. -/
  | wanted (request : Request) (frame : Option Nat)
  /-- Nothing is left in the way of a request that is to be built. -/
  | due (request : Request) (frame : Nat)
  /-- The engine was asked to build a request. -/
  | building (request : Request) (frame : Nat)
  /-- Nothing is to be built, or no longer. -/
  | busy
  /-- The unit could not be built anew and is to be taken out. -/
  | spoilt
  /-- The job was refused or the engine has panicked, so the mark is to be taken off. -/
  | leaving (frame : Nat)
  deriving DecidableEq, Repr

def Phase.framed : Phase → Bool
  | .wanted _ none | .busy => false
  | _ => true

def onPath {β : Type} (path : Path) (told : Option (Path × β)) : Option β :=
  (told.filter fun pair => pair.1 == path).map Prod.snd

def jobStake (job : Job κ) : Path × Phase :=
  (job.request.path, match job.kind with
    | .parse => .wanted job.request none
    | .reparse => .busy)

/-- The mark that a frame owns. A thread owns a mark from the marking until its job is queued, or the unit built for
the first request is looked after; a job that runs owns its mark until its callback is called. -/
def Frame.stake? (frame : Frame α κ) : Option (Path × Phase) :=
  match frame.activity with
  | .enqueue job _ => some (jobStake job)
  | .withdraw path _ | .unwind path => some (path, .leaving frame.number)
  | .load request owner => owner.path?.map (·, .wanted request (some frame.number))
  | .dropReplaced request owner | .build request owner => owner.path?.map (·, .due request frame.number)
  | .parsing request owner | .keep request _ owner => owner.path?.map (·, .building request frame.number)
  | .noteFailure _ _ owner | .settle owner _ | .find _ owner | .acquire _ (.refresh _ owner)
  | .using _ (.refresh _ owner) | .noteReparse _ _ none owner => owner.path?.map (·, .busy)
  | .noteReparse _ _ (some _) owner | .noteReparseFailure _ _ _ owner | .evict _ owner =>
    owner.path?.map (·, .spoilt)
  | _ => none

/-- What is done to a path at one go. -/
inductive Deed where
  /-- A client finds the unit as it wants it. -/
  | hit (handle : Handle)
  /-- A client finds the unit built otherwise and takes it out. -/
  | dropped (handle : Handle)
  /-- A request is put down since the path is marked. -/
  | recorded (request : Request)
  /-- A client marks the path and builds its request. -/
  | first (request : Request)
  /-- No job is needed since there is a unit. -/
  | present (handle : Handle)
  /-- The path is marked for a job that is to build a request. -/
  | admitted (request : Request)
  /-- The path is marked for a job that is to build its unit anew. -/
  | refreshing
  /-- The queue refuses the job. -/
  | refused
  /-- A worker takes the job that is to build a request. -/
  | taken (request : Request)
  /-- The owner finds the unit as it is to be built. -/
  | served (handle : Handle)
  /-- The owner finds no unit, or takes one out that was built otherwise. -/
  | stocked
  /-- The engine is asked to build a request. -/
  | called (request : Request)
  | kept (handle : Handle)
  | failed
  /-- The engine panics. -/
  | panicked
  /-- The unit could not be built anew. -/
  | refreshFailed
  /-- The unit that could not be built anew is taken out, if it is still there. -/
  | evicted (there : Bool)
  /-- The owner is given the request that was put down and keeps the mark. -/
  | tookOver (request : Request) (entry : Option Handle) (byJob : Bool)
  /-- The owner takes the mark off. -/
  | cleared (found : Option Request) (entry : Option Handle)
  /-- The mark is taken off, and with it the request put down. -/
  | released
  /-- The job is thrown away, and the mark stays. -/
  | discarded
  deriving DecidableEq, Repr

/-- How a deed of the frame of a number changes what a store holds for a path, and the phase of the mark if the frame
owns it. -/
inductive Effect (number : Nat) (path : Path) : Option Deed → View → Option Phase → View → Option Phase → Prop where
  | idle (held : View) (phase : Option Phase) : Effect number path none held phase held phase
  | hit (held : View) (handle : Handle) (found : held.entry = some handle) :
      Effect number path (some (.hit handle)) held none held none
  | dropped (held : View) (handle : Handle) (found : held.entry = some handle) :
      Effect number path (some (.dropped handle)) held none { held with entry := none } none
  | recorded (held : View) (request : Request) (same : (request.path == path) = true) (absent : held.entry = none)
      (marked : held.marked = true) :
      Effect number path (some (.recorded request)) held none { held with pending := some request } none
  | first (held : View) (request : Request) (same : (request.path == path) = true) (absent : held.entry = none)
      (free : held.marked = false) :
      Effect number path (some (.first request)) held none { held with marked := true } (some (.due request number))
  | present (held : View) (handle : Handle) (found : held.entry = some handle) :
      Effect number path (some (.present handle)) held none held none
  | admitted (held : View) (request : Request) (same : (request.path == path) = true) (absent : held.entry = none)
      (free : held.marked = false) :
      Effect number path (some (.admitted request)) held none { held with marked := true } (some (.wanted request none))
  | refreshing (held : View) (there : held.entry.isSome = true) (free : held.marked = false) :
      Effect number path (some .refreshing) held none { held with marked := true } (some .busy)
  | refused (held : View) (phase : Phase) (waiting : phase = .busy ∨ ∃ request, phase = .wanted request none) :
      Effect number path (some .refused) held (some phase) held (some (.leaving number))
  | taken (held : View) (request : Request) :
      Effect number path (some (.taken request)) held (some (.wanted request none)) held
        (some (.wanted request (some number)))
  | served (held : View) (request : Request) (handle : Handle) (found : held.entry = some handle)
      (fits : handle.request.serves request = true) :
      Effect number path (some (.served handle)) held (some (.wanted request (some number))) held (some .busy)
  | stocked (held : View) (request : Request)
      (stale : ∀ handle, held.entry = some handle → handle.request.serves request = false) :
      Effect number path (some .stocked) held (some (.wanted request (some number))) { held with entry := none }
        (some (.due request number))
  | called (held : View) (request : Request) :
      Effect number path (some (.called request)) held (some (.due request number)) held
        (some (.building request number))
  | kept (held : View) (handle : Handle) (same : (handle.request.path == path) = true) :
      Effect number path (some (.kept handle)) held (some (.building handle.request number))
        { held with entry := some handle } (some .busy)
  | failed (held : View) (request : Request) :
      Effect number path (some .failed) held (some (.building request number)) held (some .busy)
  | panicked (held : View) (phase : Phase) (asked : phase = .busy ∨ ∃ request, phase = .building request number) :
      Effect number path (some .panicked) held (some phase) held (some (.leaving number))
  | refreshFailed (held : View) : Effect number path (some .refreshFailed) held (some .busy) held (some .spoilt)
  | evicted (held : View) (there : Bool) :
      Effect number path (some (.evicted there)) held (some .spoilt)
        { held with entry := if there then none else held.entry } (some .busy)
  | tookOver (held : View) (request : Request) (byJob : Bool) (put : held.pending = some request)
      (stale : ∀ handle, held.entry = some handle → handle.request.serves request = false) :
      Effect number path (some (.tookOver request held.entry byJob)) held (some .busy) { held with pending := none }
        (some (.wanted request (if byJob then some number else none)))
  | cleared (held : View)
      (served : ∀ request, held.pending = some request →
        ∃ handle, held.entry = some handle ∧ handle.request.serves request = true) :
      Effect number path (some (.cleared held.pending held.entry)) held (some .busy)
        { held with marked := false, pending := none } none
  | released (held : View) :
      Effect number path (some .released) held (some (.leaving number)) { held with marked := false, pending := none } none

structure Note where
  frame : Nat
  path : Path
  deed : Deed
  deriving DecidableEq, Repr

def ownedByJob : Owner κ → Bool
  | .job _ => true
  | _ => false

def deedOf (background : Bool) (store : Store α κ) : Activity α κ → Option (Path × Deed)
  | .lookUp request => some (request.path,
    match (store.lookUp request).1 with
    | .hit handle => .hit handle
    | .stale handle => .dropped handle
    | .busy => .recorded request
    | .first => .first request)
  | .admitParse job _ => some (job.request.path,
    match store.peek job.request.path with
    | some handle => .present handle
    | none => if store.isParsing job.request.path then .recorded job.request else .admitted job.request)
  | .admitReparse job _ =>
    if (store.admitReparse job.request.path).1 then some (job.request.path, .refreshing) else none
  | .enqueue job _ =>
    match (store.enqueue background job).1 with
    | .full | .closed => some (job.request.path, .refused)
    | _ => none
  | .withdraw path _ | .unwind path => some (path, .released)
  | .load request owner => owner.path?.map (·,
    match (store.takeStock request).1 with
    | .served handle => .served handle
    | _ => .stocked)
  | .build request owner => owner.path?.map (·, .called request)
  | .keep request artifact owner => owner.path?.map (·, .kept (store.keep request artifact).1)
  | .settle owner _ => owner.path?.map fun path => (path,
    match (store.settle path).1 with
    | some request => .tookOver request (store.peek path) (ownedByJob owner)
    | none => .cleared (store.pending.get? path) (store.peek path))
  | .evict handle owner => owner.path?.map (·,
    .evicted ((store.peek handle.request.path).any fun current => current.number == handle.number))
  | _ => none

def answered {β : Type} (owner : Owner κ) (error : Deed) : Answer β → Option (Path × Deed)
  | .ok _ => none
  | .error _ => owner.path?.map (·, error)
  | .panic => owner.path?.map (·, .panicked)

def Frame.deed? (background : Bool) (store : Store α κ) (frame : Frame α κ) : Choice α κ → Option (Path × Deed)
  | .proceed => deedOf background store frame.activity
  | .parsed answer =>
    match frame.activity with
    | .parsing _ owner => answered owner .failed answer
    | _ => none
  | .reparsed answer =>
    match frame.activity with
    | .using _ (.refresh _ owner) => answered owner .refreshFailed answer
    | _ => none
  | _ => none

def Moment.note? (moment : Moment α κ) : Option Note :=
  let store := moment.system.store
  match moment.move with
  | .thread index choice => do
    let thread ← moment.system.threads[index]?
    match choice, thread.stack with
    | .take, _ =>
      let (job, _) ← store.dequeue
      match job.kind with
      | .parse => some ⟨moment.system.clock, job.request.path, .taken job.request⟩
      | .reparse => none
    | choice, frame :: _ =>
      let (path, deed) ← frame.deed? thread.background store choice
      some ⟨frame.number, path, deed⟩
    | _, [] => none
  | .discard => store.dequeue.map fun (job, _) => ⟨moment.system.clock, job.request.path, .discarded⟩
  | _ => none

def notes (history : List (Moment α κ)) : List Note := history.filterMap Moment.note?

end UnitCache.Interleaving
