import UnitCache.Cache.Activity
/-!
A cache as all its threads drive it, in any order. Each thread has a stack of operations, the innermost first; those
below the first are out in the engine or in a callback, from where the cache was called again. A move lets one thread
do one activity, begin an operation, or come back from outside with any answer whatever.
-/
namespace UnitCache.Interleaving

variable {α κ : Type}

/-- What callers ask of the cache, or of a unit that it gave them. Looking alone changes nothing and is left out. -/
inductive Operation (κ : Type) where
  | getUnit (request : Request)
  | addParse (job : Job κ)
  | addReparse (job : Job κ)
  | refreshAll
  | complete (query : CompletionQuery)
  | hold (handle : Handle)
  | reparse (handle : Handle) (flags : ParseFlags)
  | completeIn (handle : Handle) (line column : UInt32) (flags : ParseFlags)

def Operation.activity : Operation κ → Activity α κ
  | getUnit request => .lookUp request
  | addParse job => .admitParse job .queued
  | addReparse job => .admitReparse job .queued
  | refreshAll => .collect
  | complete query => .ask query
  | hold handle => .acquire handle .hold
  | reparse handle flags => .acquire handle (.reparse flags)
  | completeIn handle line column flags => .acquire handle (.complete line column flags)

inductive Task (κ : Type) where
  | operation (operation : Operation κ)
  | job (job : Job κ)
  | tick

/-- Something begun and not yet done. Its number is that of the move that it began with. -/
structure Frame (α κ : Type) where
  number : Nat
  task : Task κ
  activity : Activity α κ

inductive Role where
  | client
  | worker
  /-- The thread that has all units built anew from time to time. -/
  | ticker
  deriving DecidableEq, Inhabited, Repr

structure Thread (α κ : Type) where
  role : Role
  guards : List Handle := []
  stack : List (Frame α κ) := []

structure System (α κ : Type) where
  store : Store α κ
  threads : List (Thread α κ)
  clock : Nat := 0
  stopping : Bool := false

def System.start (flags : ParseFlags) (capacity : Nat) (roles : List Role) : System α κ where
  store := .empty flags capacity
  threads := roles.map fun role => { role }

def System.frames (system : System α κ) : List (Frame α κ) := system.threads.flatMap Thread.stack

inductive Choice (α : Type) (κ : Type) where
  | proceed
  | parsed (answer : Answer α)
  | reparsed (answer : Answer α)
  | completed (answer : Answer (List Candidate)) (noted : List Warning)
  | returned (panicked : Bool)
  | reorder (left : List Request)
  | call (operation : Operation κ)
  | release (handle : Handle)
  | take
  | tick

/-- Whether an activity leaves its thread to the engine or to a callback. -/
def outside : Activity α κ → Bool
  | .parsing .. | .calling _ => true
  | .using _ .hold => false
  | .using .. => true
  | _ => false

namespace Thread

/-- Whether a thread belongs to the cache. Such a thread does not wait for room in the queue. -/
def background (thread : Thread α κ) : Bool := thread.role != .client

def atLarge (thread : Thread α κ) : Bool :=
  match thread.stack with
  | [] => true
  | frame :: _ => outside frame.activity

/-- Whether a thread may call the cache: that of a client when it is not in it, and any from the engine or a callback. -/
def mayCall (thread : Thread α κ) : Bool := thread.atLarge && (thread.role == .client || !thread.stack.isEmpty)

def begin (thread : Thread α κ) (number : Nat) (task : Task κ) (activity : Activity α κ) : Thread α κ :=
  { thread with stack := ⟨number, task, activity⟩ :: thread.stack }

end Thread

/-- What comes of the activity on top. The engine and the callbacks answer only where they were asked. -/
def turn? (background : Bool) (store : Store α κ) (activity : Activity α κ) : Choice α κ → Option (Turn α κ)
  | .proceed => some (activity.step background store)
  | .parsed answer =>
    match activity with
    | .parsing .. => some (activity.afterParse store answer)
    | _ => none
  | .reparsed answer =>
    match activity with
    | .using _ (.refresh ..) | .using _ (.reparse _) => some (activity.afterReparse store answer)
    | _ => none
  | .completed answer noted =>
    match activity with
    | .using _ (.query ..) | .using _ (.complete ..) => some (activity.afterCompletion store answer noted)
    | _ => none
  | .returned panicked =>
    match activity with
    | .calling _ => some (Activity.afterCallback store panicked)
    | _ => none
  | .reorder left =>
    match activity with
    | .refreshNext requests queued =>
      if requests.isPerm left then some (.next store (.refreshNext left queued) []) else none
    | _ => none
  | _ => none

/-- The store behind a turn and what is left of the frame, unless the thread waits or is outside. -/
def Frame.after? (frame : Frame α κ) : Turn α κ → Option (Store α κ × Option (Frame α κ))
  | .next store activity _ => some (store, some { frame with activity })
  | .done store _ _ => some (store, none)
  | _ => none

def Frame.kept : Frame α κ → Option Handle
  | ⟨_, _, .acquire handle .hold⟩ => some handle
  | _ => none

def Thread.act? (clock : Nat) (store : Store α κ) (thread : Thread α κ) :
    Choice α κ → Option (Store α κ × Thread α κ)
  | .call operation =>
    if thread.mayCall then some (store, thread.begin clock (.operation operation) operation.activity) else none
  | .release handle =>
    if thread.atLarge && thread.guards.contains handle then
      some (store.unlock handle.number, { thread with guards := thread.guards.erase handle })
    else none
  | .take =>
    if thread.role == .worker && thread.stack.isEmpty then
      store.dequeue.map fun (job, store) => (store, thread.begin clock (.job job) (.ofJob job))
    else none
  | .tick =>
    if thread.role == .ticker && thread.stack.isEmpty then some (store, thread.begin clock .tick .collect) else none
  | choice =>
    match thread.stack with
    | [] => none
    | frame :: rest => do
      let turn ← turn? thread.background store frame.activity choice
      let (store, left) ← frame.after? turn
      let guards := if left.isNone then frame.kept.toList ++ thread.guards else thread.guards
      some (store, { thread with guards, stack := left.toList ++ rest })

inductive Move (α : Type) (κ : Type) where
  | thread (index : Nat) (choice : Choice α κ)
  | stop
  /-- A worker throws a job away since the cache is being given up. -/
  | discard
  /-- The last worker is gone, and with it the end of the queue where jobs come out. -/
  | close

def System.move? (system : System α κ) : Move α κ → Option (System α κ)
  | .thread index choice => do
    let thread ← system.threads[index]?
    let (store, thread) ← thread.act? system.clock system.store choice
    some { system with store, threads := system.threads.set index thread, clock := system.clock + 1 }
  | .stop => some { system with stopping := true, clock := system.clock + 1 }
  | .discard =>
    if system.stopping then
      system.store.dequeue.map fun (_, store) => { system with store, clock := system.clock + 1 }
    else none
  | .close =>
    if system.stopping then some { system with store := system.store.closeQueue, clock := system.clock + 1 } else none

structure Moment (α κ : Type) where
  system : System α κ
  move : Move α κ

/-- A run of a new cache: the moments so far, and the system that they led to. -/
inductive Run (flags : ParseFlags) (capacity : Nat) (roles : List Role) : List (Moment α κ) → System α κ → Prop where
  | start : Run flags capacity roles [] (.start flags capacity roles)
  | move {history : List (Moment α κ)} {system next : System α κ} {move : Move α κ}
      (run : Run flags capacity roles history system) (made : system.move? move = some next) :
      Run flags capacity roles (history ++ [⟨system, move⟩]) next

def System.follow (system : System α κ) : List (Move α κ) → Option (List (Moment α κ) × System α κ)
  | [] => some ([], system)
  | move :: rest => do
    let next ← system.move? move
    let (later, last) ← next.follow rest
    some (⟨system, move⟩ :: later, last)

theorem Run.follow {flags : ParseFlags} {capacity : Nat} {roles : List Role} {moves : List (Move α κ)}
    {history later : List (Moment α κ)} {system last : System α κ} (run : Run flags capacity roles history system)
    (followed : system.follow moves = some (later, last)) : Run flags capacity roles (history ++ later) last := by
  induction moves generalizing history system later with
  | nil =>
    cases followed
    rwa [List.append_nil]
  | cons move rest ih =>
    simp only [System.follow, Option.bind_eq_bind, Option.bind_eq_some_iff] at followed
    obtain ⟨next, made, ⟨after, final⟩, goes_on, same⟩ := followed
    cases same
    have whole := ih (run.move made) goes_on
    rwa [List.append_assoc] at whole

/-- Moves that can be made from the start are a run. -/
theorem Run.of_follow (flags : ParseFlags) (capacity : Nat) (roles : List Role) (moves : List (Move α κ))
    (check : List (Moment α κ) → System α κ → Bool)
    (passes : ((System.start flags capacity roles).follow moves).any (fun made => check made.1 made.2) = true) :
    ∃ history system, Run flags capacity roles history system ∧ check history system = true := by
  obtain ⟨⟨history, system⟩, followed, checked⟩ := (Option.any_eq_true _ _).mp passes
  exact ⟨history, system, Run.start.follow followed, checked⟩

theorem Run.of_follow_through (flags : ParseFlags) (capacity : Nat) (roles : List Role) (first : List (Move α κ))
    (move : Move α κ) (rest : List (Move α κ))
    (check : List (Moment α κ) → System α κ → List (Moment α κ) → System α κ → Bool)
    (passes : ((System.start flags capacity roles).follow first).any (fun made =>
      ((made.2.move? move).bind fun next => next.follow rest).any fun last => check made.1 made.2 last.1 last.2) = true) :
    ∃ earlier before later system, Run flags capacity roles (earlier ++ ⟨before, move⟩ :: later) system ∧
      check earlier before later system = true := by
  obtain ⟨⟨earlier, before⟩, followed, goes_on⟩ := (Option.any_eq_true _ _).mp passes
  obtain ⟨⟨later, system⟩, followed_on, checked⟩ := (Option.any_eq_true _ _).mp goes_on
  obtain ⟨next, made, after⟩ := Option.bind_eq_some_iff.mp followed_on
  refine ⟨earlier, before, later, system, ?_, checked⟩
  have reached : Run flags capacity roles earlier before := Run.start.follow followed
  have whole := (reached.move made).follow after
  rwa [List.append_assoc] at whole

end UnitCache.Interleaving
