import Mathlib.Data.List.Induction
import UnitCache.Proofs.Acts
/-!
The threads of a cache in their loops, and the drop that ends them. A worker selects a job or the signal to stop,
whichever is there; with a job in hand it looks at the signal, throws the job away if it is given, and else does the job
and selects again. So does the ticker when it is time. The drop gives the signal and joins the threads one by one, all
but the one that it is made on. What threads do within the cache, and outside of it, are moves of the system.
-/
namespace UnitCache

open Interleaving

variable {α κ : Type}

/-- Where a thread is in its loop. A thread of a client has none, and does what it likes. -/
inductive Pool.Stage where
  | selecting
  /-- It has received a job, and does nothing for it until it has looked at the signal. -/
  | received
  | working
  | stopped
  deriving DecidableEq, Repr

structure Pool.Drop where
  dropper : Nat
  left : List Nat
  returned : Bool := false
  deriving DecidableEq, Repr

/-- A cache, and how far its threads are in their loops. -/
structure Pool (α κ : Type) where
  system : System α κ
  stages : List Pool.Stage
  drop : Option Pool.Drop := none

namespace Pool

def start (flags : ParseFlags) (capacity : Nat) (roles : List Role) : Pool α κ where
  system := .start flags capacity roles
  stages := roles.map fun role => if role = .client then .working else .selecting

def signalled (pool : Pool α κ) : Bool := pool.drop.isSome

def joining (pool : Pool α κ) (index : Nat) : Bool := pool.drop.any fun drop => drop.dropper == index && !drop.returned

def handles (pool : Pool α κ) : List Nat :=
  (List.range pool.system.threads.length).filter fun index => pool.system.threads[index]?.any Thread.background

/-- Where a thread is that has done something. Once a thread of the cache has nothing left to do, it selects again. -/
def stageOf (thread : Thread α κ) : Stage :=
  if thread.background && thread.stack.isEmpty then .selecting else .working

inductive Move (α κ : Type) where
  | receive (index : Nat)
  | look (index : Nat)
  | tick (index : Nat)
  | leave (index : Nat)
  | act (index : Nat) (choice : Choice α κ)
  | drop (index : Nat)
  /-- The drop joins the next thread, or passes over the one that it is made on. -/
  | join
  | giveBack
  | close

def Move.thread? : Move α κ → Option Nat
  | .receive index | .look index | .tick index | .leave index | .act index _ => some index
  | .drop _ | .join | .giveBack | .close => none

def move? (pool : Pool α κ) : Move α κ → Option (Pool α κ)
  | .receive index =>
    if pool.stages[index]? = some .selecting then
      (pool.system.move? (.thread index .take)).map fun system =>
        { pool with system, stages := pool.stages.set index .received }
    else none
  | .look index =>
    if pool.stages[index]? = some .received then
      some { pool with stages := pool.stages.set index (if pool.signalled then .stopped else .working) }
    else none
  | .tick index =>
    if pool.stages[index]? = some .selecting then
      (pool.system.move? (.thread index .tick)).map fun system =>
        { pool with system, stages := pool.stages.set index .working }
    else none
  | .leave index =>
    if pool.stages[index]? = some .selecting ∧ pool.signalled then
      some { pool with stages := pool.stages.set index .stopped }
    else none
  | .act index choice =>
    if pool.stages[index]? = some .working ∧ !pool.joining index then do
      let system ← pool.system.move? (.thread index choice)
      let thread ← system.threads[index]?
      some { pool with system, stages := pool.stages.set index (stageOf thread) }
    else none
  | .drop index =>
    if pool.stages[index]? = some .working ∧ !pool.signalled ∧ pool.system.threads[index]?.any Thread.mayCall then
      (pool.system.move? .stop).map fun system =>
        { pool with system, drop := some { dropper := index, left := pool.handles } }
    else none
  | .join =>
    match pool.drop with
    | some ⟨dropper, next :: left, returned⟩ =>
      if next = dropper ∨ pool.stages[next]? = some .stopped then
        some { pool with drop := some ⟨dropper, left, returned⟩ }
      else none
    | _ => none
  | .giveBack =>
    match pool.drop with
    | some ⟨dropper, [], false⟩ => some { pool with drop := some ⟨dropper, [], true⟩ }
    | _ => none
  | .close =>
    if (List.range pool.system.threads.length).all fun index =>
        pool.system.threads[index]?.any fun thread =>
          thread.role != .worker || pool.stages[index]? == some .stopped then
      (pool.system.move? .close).map fun system => { pool with system }
    else none

def Move.inSystem? : Move α κ → Option (Interleaving.Move α κ)
  | .receive index => some (.thread index .take)
  | .tick index => some (.thread index .tick)
  | .act index choice => some (.thread index choice)
  | .drop _ => some .stop
  | .close => some .close
  | .look _ | .leave _ | .join | .giveBack => none

structure Moment (α κ : Type) where
  pool : Pool α κ
  move : Move α κ

def trace (history : List (Moment α κ)) : List (Interleaving.Moment α κ) :=
  history.filterMap fun moment => moment.move.inSystem?.map fun move => ⟨moment.pool.system, move⟩

inductive Run (flags : ParseFlags) (capacity : Nat) (roles : List Role) : List (Moment α κ) → Pool α κ → Prop where
  | start : Run flags capacity roles [] (.start flags capacity roles)
  | move {history : List (Moment α κ)} {pool next : Pool α κ} {move : Move α κ}
      (run : Run flags capacity roles history pool) (made : pool.move? move = some next) :
      Run flags capacity roles (history ++ [⟨pool, move⟩]) next

inductive Step (pool : Pool α κ) : Move α κ → Pool α κ → Prop where
  | receive (index : Nat) (system : System α κ) (selects : pool.stages[index]? = some .selecting)
      (made : pool.system.move? (.thread index .take) = some system) :
      Step pool (.receive index) { pool with system, stages := pool.stages.set index .received }
  | look (index : Nat) (received : pool.stages[index]? = some .received) :
      Step pool (.look index)
        { pool with stages := pool.stages.set index (if pool.signalled then .stopped else .working) }
  | tick (index : Nat) (system : System α κ) (selects : pool.stages[index]? = some .selecting)
      (made : pool.system.move? (.thread index .tick) = some system) :
      Step pool (.tick index) { pool with system, stages := pool.stages.set index .working }
  | leave (index : Nat) (selects : pool.stages[index]? = some .selecting) (signalled : pool.signalled = true) :
      Step pool (.leave index) { pool with stages := pool.stages.set index .stopped }
  | act (index : Nat) (choice : Choice α κ) (system : System α κ) (thread : Thread α κ)
      (works : pool.stages[index]? = some .working) (free : pool.joining index = false)
      (made : pool.system.move? (.thread index choice) = some system) (found : system.threads[index]? = some thread) :
      Step pool (.act index choice) { pool with system, stages := pool.stages.set index (stageOf thread) }
  | drop (index : Nat) (system : System α κ) (thread : Thread α κ) (works : pool.stages[index]? = some .working)
      (first : pool.drop = none) (found : pool.system.threads[index]? = some thread) (may : thread.mayCall = true)
      (made : pool.system.move? .stop = some system) :
      Step pool (.drop index) { pool with system, drop := some { dropper := index, left := pool.handles } }
  | join (dropper next : Nat) (left : List Nat) (returned : Bool)
      (drops : pool.drop = some ⟨dropper, next :: left, returned⟩)
      (passes : next = dropper ∨ pool.stages[next]? = some .stopped) :
      Step pool .join { pool with drop := some ⟨dropper, left, returned⟩ }
  | giveBack (dropper : Nat) (drops : pool.drop = some ⟨dropper, [], false⟩) :
      Step pool .giveBack { pool with drop := some ⟨dropper, [], true⟩ }
  | close (system : System α κ) (made : pool.system.move? .close = some system) : Step pool .close { pool with system }

section Moves

variable {pool next : Pool α κ} {move : Move α κ}

theorem step_of_move (made : pool.move? move = some next) : Step pool move next := by
  cases move with
  | receive index =>
    simp only [move?, Option.ite_none_right_eq_some, Option.map_eq_some_iff] at made
    obtain ⟨selects, system, made, rfl⟩ := made
    exact .receive index system selects made
  | look index =>
    simp only [move?, Option.ite_none_right_eq_some, Option.some.injEq] at made
    obtain ⟨received, rfl⟩ := made
    exact .look index received
  | tick index =>
    simp only [move?, Option.ite_none_right_eq_some, Option.map_eq_some_iff] at made
    obtain ⟨selects, system, made, rfl⟩ := made
    exact .tick index system selects made
  | leave index =>
    simp only [move?, Option.ite_none_right_eq_some, Option.some.injEq] at made
    obtain ⟨⟨selects, signalled⟩, rfl⟩ := made
    exact .leave index selects signalled
  | act index choice =>
    simp only [move?, Option.ite_none_right_eq_some, Option.bind_eq_bind, Option.bind_eq_some_iff, Option.some.injEq,
      Bool.not_eq_true'] at made
    obtain ⟨⟨works, free⟩, system, made, thread, found, rfl⟩ := made
    exact .act index choice system thread works free made found
  | drop index =>
    simp only [move?, Option.ite_none_right_eq_some, Option.map_eq_some_iff, Bool.not_eq_true', signalled,
      Option.isSome_eq_false_iff, Option.isNone_iff_eq_none, Option.any_eq_true] at made
    obtain ⟨⟨works, first, thread, found, may⟩, system, made, rfl⟩ := made
    exact .drop index system thread works first found may made
  | join =>
    simp only [move?] at made
    split at made
    next dropper follower left returned drops =>
      simp only [Option.ite_none_right_eq_some, Option.some.injEq] at made
      obtain ⟨passes, rfl⟩ := made
      exact .join dropper follower left returned drops passes
    next => cases made
  | giveBack =>
    simp only [move?] at made
    split at made
    next dropper drops =>
      cases made
      exact .giveBack dropper drops
    next => cases made
  | close =>
    simp only [move?, Option.ite_none_right_eq_some, Option.map_eq_some_iff] at made
    obtain ⟨_, system, made, rfl⟩ := made
    exact .close system made

theorem inSystem_of_move (made : pool.move? move = some next) :
    (move.inSystem? = none ∧ next.system = pool.system) ∨
      ∃ inner, move.inSystem? = some inner ∧ pool.system.move? inner = some next.system := by
  cases step_of_move made with
  | receive _ _ _ moved | tick _ _ _ moved | act _ _ _ _ _ _ moved | drop _ _ _ _ _ _ _ moved | close _ moved =>
    exact .inr ⟨_, rfl, moved⟩
  | look | leave | join | giveBack => exact .inl ⟨rfl, rfl⟩

end Moves

theorem trace_append (history : List (Moment α κ)) (moment : Moment α κ) :
    trace (history ++ [moment]) =
      trace history ++ (moment.move.inSystem?.map (⟨moment.pool.system, ·⟩)).toList := by
  cases told : moment.move.inSystem? <;> simp [trace, told]

def follow (pool : Pool α κ) : List (Move α κ) → Option (List (Moment α κ) × Pool α κ)
  | [] => some ([], pool)
  | move :: rest => do
    let next ← pool.move? move
    let (later, last) ← next.follow rest
    some (⟨pool, move⟩ :: later, last)

theorem follow_cons {pool next last : Pool α κ} {move : Move α κ} {moves : List (Move α κ)} {later : List (Moment α κ)}
    (made : pool.move? move = some next) (followed : next.follow moves = some (later, last)) :
    pool.follow (move :: moves) = some (⟨pool, move⟩ :: later, last) := by
  rw [follow, made]
  simp only [Option.bind_eq_bind, Option.bind_some, followed]

section Runs

variable {flags : ParseFlags} {capacity : Nat} {roles : List Role} {history earlier later : List (Moment α κ)}
  {moment : Moment α κ} {pool next : Pool α κ}

/-- The system of a pool does what any system can do. -/
theorem Run.traced (run : Run flags capacity roles history pool) :
    Interleaving.Run flags capacity roles (trace history) pool.system := by
  induction run with
  | start => exact .start
  | @move history pool next move run made ih =>
    rw [trace_append]
    rcases inSystem_of_move made with ⟨idle, same⟩ | ⟨inner, told, moved⟩
    · simpa [idle, same] using ih
    · simpa [told] using ih.move moved

theorem Run.last (run : Run flags capacity roles (history ++ [moment]) next) :
    Run flags capacity roles history moment.pool ∧ moment.pool.move? moment.move = some next := by
  generalize whole : history ++ [moment] = all at run
  cases run with
  | start => simp at whole
  | move run made =>
    obtain ⟨rfl, same⟩ := List.append_inj' whole rfl
    cases same
    exact ⟨run, made⟩

theorem Run.made_at (run : Run flags capacity roles (earlier ++ moment :: later) pool) :
    Run flags capacity roles earlier moment.pool ∧ ∃ next, moment.pool.move? moment.move = some next := by
  induction later using List.reverseRecOn generalizing pool with
  | nil => exact run.last.imp_right fun made => ⟨_, made⟩
  | append_singleton later latest ih =>
    rw [← List.cons_append, ← List.append_assoc] at run
    exact ih run.last.1

theorem Run.follow {moves : List (Move α κ)} (run : Run flags capacity roles history pool)
    (followed : pool.follow moves = some (later, next)) : Run flags capacity roles (history ++ later) next := by
  induction moves generalizing history pool later with
  | nil =>
    cases followed
    rwa [List.append_nil]
  | cons move rest ih =>
    simp only [Pool.follow, Option.bind_eq_bind, Option.bind_eq_some_iff] at followed
    obtain ⟨behind, made, ⟨after, last⟩, goes_on, same⟩ := followed
    cases same
    have whole := ih (run.move made) goes_on
    rwa [List.append_assoc] at whole

theorem Run.of_follow (flags : ParseFlags) (capacity : Nat) (roles : List Role) (moves : List (Move α κ))
    (check : List (Moment α κ) → Pool α κ → Bool)
    (passes : ((Pool.start flags capacity roles).follow moves).any (fun made => check made.1 made.2) = true) :
    ∃ history pool, Run flags capacity roles history pool ∧ check history pool = true := by
  obtain ⟨⟨history, pool⟩, followed, checked⟩ := (Option.any_eq_true _ _).mp passes
  exact ⟨history, pool, Run.start.follow followed, checked⟩

end Runs

end Pool

end UnitCache
