import UnitCache.Cache.Request
import UnitCache.ParseFlags
import UnitCache.PathMap
/-!
The state that the threads of the cache share, and what is done to it at one go, while no other thread looks.

A path is marked as long as a job for it waits or runs, or its first request is being built. Requests that come for
a marked path are put down, the last of them only, and looked at by the owner of the mark before it lets go of it.
-/
namespace UnitCache

structure Queue (κ : Type) where
  jobs : List (Job κ) := []
  capacity : Nat
  isOpen : Bool := true
  deriving Inhabited

/-- How often things happened, modulo 2^64. -/
structure Counters where
  parses : UInt64 := 0
  reparses : UInt64 := 0
  invalidations : UInt64 := 0
  failures : UInt64 := 0
  deriving DecidableEq, Inhabited, Repr

instance coeWord : Coe UInt64 Nat := ⟨UInt64.toNat⟩

/-- What a handle stands for: what the engine made, and whether a thread uses it. -/
structure Cell (α : Type) where
  artifact : α
  locked : Bool := false
  deriving Inhabited

/-- The state of the cache. Artifacts are of a type `α`, and callbacks of a type `κ`. -/
structure Store (α κ : Type) where
  flags : ParseFlags
  units : PathMap Handle := {}
  /-- The marked paths. -/
  parsing : PathSet := {}
  /-- The last request that came for a marked path. -/
  pending : PathMap Request := {}
  queue : Queue κ
  counters : Counters := {}
  /-- The units ever made, by number. -/
  cells : List (Cell α) := []
  deriving Inhabited

structure CacheStats where
  units : Nat
  parsing : Nat
  queued : Nat
  parses : UInt64
  reparses : UInt64
  invalidations : UInt64
  failures : UInt64
  deriving DecidableEq, Inhabited, Repr

def CacheStats.text (stats : CacheStats) : String :=
  "CacheStats \x7b units: " ++ toString stats.units ++ ", parsing: " ++ toString stats.parsing
    ++ ", queued: " ++ toString stats.queued ++ ", parses: " ++ toString stats.parses
    ++ ", reparses: " ++ toString stats.reparses ++ ", invalidations: " ++ toString stats.invalidations
    ++ ", failures: " ++ toString stats.failures ++ " \x7d"

namespace Store

variable {α κ : Type}

def empty (flags : ParseFlags) (capacity : Nat) : Store α κ := { flags, queue := { capacity } }

def peek (store : Store α κ) (path : Path) : Option Handle := store.units.get? path

def isParsing (store : Store α κ) (path : Path) : Bool := store.parsing.contains path

def stats (store : Store α κ) : CacheStats :=
  { units := store.units.size
    parsing := store.parsing.size
    queued := store.queue.jobs.length
    parses := store.counters.parses
    reparses := store.counters.reparses
    invalidations := store.counters.invalidations
    failures := store.counters.failures }

def mark (store : Store α κ) (path : Path) : Store α κ :=
  if store.isParsing path then store else { store with parsing := store.parsing.insert path () }

def record (store : Store α κ) (request : Request) : Store α κ :=
  { store with pending := store.pending.insert request.path request }

/-- Takes the mark off a path, and with it the request put down. -/
def release (store : Store α κ) (path : Path) : Store α κ :=
  { store with parsing := store.parsing.erase path, pending := store.pending.erase path }

def evict (store : Store α κ) (path : Path) : Store α κ := { store with units := store.units.erase path }

inductive Lookup where
  /-- The unit is there as asked for. -/
  | hit (handle : Handle)
  /-- The unit was there, but built otherwise; it is taken out. -/
  | stale (handle : Handle)
  /-- Somebody else has the path; the request is put down. -/
  | busy
  /-- Nobody has the path; it is marked for this client. -/
  | first
  deriving DecidableEq, Repr

def lookUp (store : Store α κ) (request : Request) : Lookup × Store α κ :=
  match store.peek request.path with
  | none =>
    if store.isParsing request.path then (.busy, store.record request)
    else (.first, store.mark request.path)
  | some handle =>
    if handle.request.serves request then (.hit handle, store) else (.stale handle, store.evict request.path)

inductive Stock where
  | served (handle : Handle)
  /-- A unit built otherwise was there; it is taken out. -/
  | replaced
  | absent
  deriving DecidableEq, Repr

def takeStock (store : Store α κ) (request : Request) : Stock × Store α κ :=
  match store.peek request.path with
  | none => (.absent, store)
  | some handle =>
    if handle.request.serves request then (.served handle, store) else (.replaced, store.evict request.path)

def keep (store : Store α κ) (request : Request) (artifact : α) : Handle × Store α κ :=
  let handle : Handle := ⟨store.cells.length, request⟩
  (handle, { store with
    units := store.units.insert request.path handle
    cells := store.cells ++ [{ artifact }] })

/-- Takes a unit out of the cache unless another one is in its place. -/
def evictIfCurrent (store : Store α κ) (handle : Handle) : Store α κ :=
  match store.peek handle.request.path with
  | some current => if current.number == handle.number then store.evict handle.request.path else store
  | none => store

/-- Looks at the request put down for a path when its owner is done: a request that the cache does not serve is
given to the owner, who keeps the mark; else the mark is taken off. -/
def settle (store : Store α κ) (path : Path) : Option Request × Store α κ :=
  match store.pending.get? path with
  | none => (none, { store with parsing := store.parsing.erase path })
  | some request =>
    let store := { store with pending := store.pending.erase path }
    let served := (store.peek path).any fun handle => handle.request.serves request
    if served then (none, { store with parsing := store.parsing.erase path }) else (some request, store)

/-- Marks a path for a job that is to build its unit, unless the unit is there or the path is marked; then the
request is put down. -/
def admitParse (store : Store α κ) (request : Request) : Bool × Store α κ :=
  if store.units.contains request.path then (false, store)
  else if store.isParsing request.path then (false, store.record request)
  else (true, store.mark request.path)

/-- Marks a path for a job that is to build its unit anew, if the unit is there and the path is not marked. -/
def admitReparse (store : Store α κ) (path : Path) : Bool × Store α κ :=
  if !store.units.contains path || store.isParsing path then (false, store) else (true, store.mark path)

def requests (store : Store α κ) : List Request :=
  (store.units.values.map Handle.request).mergeSort fun left right => decide (left.path.text ≤ right.path.text)

inductive Enqueued where
  | accepted
  /-- There is no room, and the thread may not wait for it. -/
  | full
  | closed
  /-- There is no room yet. -/
  | waits
  deriving DecidableEq, Repr

/-- Queues a job. A thread of the cache itself does not wait for room, since it may be the one that makes it. -/
def enqueue (store : Store α κ) (background : Bool) (job : Job κ) : Enqueued × Store α κ :=
  let queue := store.queue
  if !queue.isOpen then (.closed, store)
  else if queue.jobs.length < queue.capacity then
    (.accepted, { store with queue := { queue with jobs := queue.jobs ++ [job] } })
  else if background then (.full, store)
  else (.waits, store)

def dequeue (store : Store α κ) : Option (Job κ × Store α κ) :=
  match store.queue.jobs with
  | [] => none
  | job :: rest =>
    if store.queue.isOpen then some (job, { store with queue := { store.queue with jobs := rest } }) else none

/-- Takes no more jobs. Those that wait do so for ever. -/
def closeQueue (store : Store α κ) : Store α κ := { store with queue := { store.queue with isOpen := false } }

def count (store : Store α κ) (change : Counters → Counters) : Store α κ :=
  { store with counters := change store.counters }

def isLocked (store : Store α κ) (number : Nat) : Bool := (store.cells[number]?.map Cell.locked).getD false

def modifyCell (store : Store α κ) (number : Nat) (change : Cell α → Cell α) : Store α κ :=
  { store with cells := store.cells.modify number change }

def lock (store : Store α κ) (number : Nat) : Store α κ :=
  store.modifyCell number fun cell => { cell with locked := true }

def unlock (store : Store α κ) (number : Nat) : Store α κ :=
  store.modifyCell number fun cell => { cell with locked := false }

def replaceArtifact (store : Store α κ) (number : Nat) (artifact : α) : Store α κ :=
  store.modifyCell number fun cell => { cell with artifact }

def artifact? (store : Store α κ) (number : Nat) : Option α := store.cells[number]?.map Cell.artifact

end Store

end UnitCache
