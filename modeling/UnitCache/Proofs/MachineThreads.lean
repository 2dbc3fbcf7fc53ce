import Mathlib.Data.List.Perm.Basic
import UnitCache.Proofs.Course
import UnitCache.Proofs.Pauses
import UnitCache.Scenario.Run
/-!
The threads of a machine, seen as threads of a system. A machine has a thread for each thing that is being done, and
what such a thread has still to do is a stack of levels; the activities among them are the frames of a thread of the
system. A thread that is gone from the machine stays in the system as it was.
-/
namespace UnitCache.Interleaving

section Systems

variable {α κ : Type} {flags : ParseFlags} {capacity : Nat} {roles : List Role} {history : List (Moment α κ)}
  {system next : System α κ}

def System.widen (system : System α κ) (role : Role) : System α κ :=
  { system with threads := system.threads ++ [{ role }] }

theorem move?_widen {move : Move α κ} (made : system.move? move = some next) (role : Role) :
    (system.widen role).move? move = some (next.widen role) := by
  cases move with
  | thread index choice =>
    simp only [System.move?, Option.bind_eq_bind, Option.bind_eq_some_iff] at made
    obtain ⟨thread, found, ⟨store, later⟩, acted, same⟩ := made
    cases same
    have inside : index < system.threads.length := (List.getElem?_eq_some_iff.mp found).1
    have still : (system.widen role).threads[index]? = some thread := by
      rw [System.widen, List.getElem?_append_left inside, found]
    simp only [System.move?, still, Option.bind_eq_bind, Option.bind_some]
    simp only [System.widen, acted, Option.bind_some, List.set_append_left _ _ inside]
  | stop => cases made; rfl
  | discard =>
    simp only [System.move?, Option.ite_none_right_eq_some, Option.map_eq_some_iff] at made
    obtain ⟨stopping, taken, dequeued, same⟩ := made
    cases same
    simp [System.move?, System.widen, stopping, dequeued]
  | close =>
    simp only [System.move?, Option.ite_none_right_eq_some, Option.some.injEq] at made
    obtain ⟨stopping, same⟩ := made
    cases same
    simp [System.move?, System.widen, stopping]

/-- A thread that never does anything takes nothing from a run. -/
theorem Run.widen (run : Run flags capacity roles history system) (role : Role) :
    ∃ longer, Run flags capacity (roles ++ [role]) longer (system.widen role) := by
  induction run with
  | start =>
    have same : (System.start flags capacity roles : System α κ).widen role =
        .start flags capacity (roles ++ [role]) := by
      simp [System.widen, System.start]
    rw [same]
    exact ⟨[], .start⟩
  | move _ made ih =>
    obtain ⟨longer, run⟩ := ih
    exact ⟨_, run.move (move?_widen made role)⟩

theorem move?_of_perm {thread later : Thread α κ} {others : List (Thread α κ)} {store : Store α κ} {choice : Choice α κ}
    (found : system.threads.Perm (thread :: others))
    (acted : thread.act? system.clock system.store choice = some (store, later)) :
    ∃ index next, system.move? (.thread index choice) = some next ∧ next.store = store ∧
      next.stopping = system.stopping ∧ next.threads.Perm (later :: others) := by
  obtain ⟨index, inside, rfl⟩ := List.getElem_of_mem (found.symm.subset List.mem_cons_self)
  refine ⟨index, { system with store, threads := system.threads.set index later, clock := system.clock + 1 }, ?_, rfl,
    rfl, ?_⟩
  · simp [System.move?, List.getElem?_eq_getElem inside, acted]
  · have rest : (system.threads.eraseIdx index).Perm others := by
      refine List.Perm.cons_inv (a := system.threads[index]) ?_
      exact (List.getElem_cons_eraseIdx_perm inside).trans found
    exact (List.set_perm_cons_eraseIdx inside later).trans (rest.cons later)

/-- When the cache is given up, all jobs that wait can be thrown away. -/
theorem Run.discard_all (run : Run flags capacity roles history system) (stopping : system.stopping = true)
    (isOpen : system.store.queue.isOpen = true) :
    ∃ longer later, Run flags capacity roles longer later ∧ later.stopping = true ∧ later.threads = system.threads ∧
      later.store = { system.store with queue := { system.store.queue with jobs := [] } } := by
  generalize jobs : system.store.queue.jobs = waiting
  induction waiting generalizing history system with
  | nil =>
    refine ⟨history, system, run, stopping, rfl, ?_⟩
    rw [← jobs]
  | cons job rest ih =>
    have taken : system.store.dequeue =
        some (job, { system.store with queue := { system.store.queue with jobs := rest } }) := by
      simp [Store.dequeue, jobs, isOpen]
    have made : system.move? .discard = some { system with
        store := { system.store with queue := { system.store.queue with jobs := rest } }
        clock := system.clock + 1 } := by
      simp [System.move?, stopping, taken]
    have from_there := ih (run.move made)
    exact from_there stopping isOpen rfl

end Systems

end UnitCache.Interleaving

namespace UnitCache.Scenario

mutual

/-- Whether users of a cache can take a step, and all those that it leads to. The others reach inside the cache. -/
def Step.isOpen : Step → Bool
  | .addParse _ (some steps) | .addReparse _ (some steps) | .hook _ _ steps => areOpen steps
  | .spawn _ step => step.isOpen
  | .evictSlot _ | .runNext | .runJob .. | .submit .. | .parseNow _ | .compile _ | .reparseNow _ | .mark _
  | .closeQueue => false
  | _ => true

def areOpen : List Step → Bool
  | [] => true
  | step :: rest => step.isOpen && areOpen rest

end

def Wish.held? : Wish → Option Handle
  | .hold _ handle | .diagnostics handle => some handle
  | _ => none

def Role.inSystem : Role → Interleaving.Role
  | .main | .spawned _ => .client
  | .worker => .worker
  | .ticker => .ticker

end UnitCache.Scenario

namespace UnitCache.Interleaving

open Scenario (Product Callback Level Wish Origin HookPoint CallStage)

def Harmless (activity : Activity Product Callback) : Prop :=
  ∀ callback ∈ callback? activity, Scenario.areOpen callback.steps = true

mutual

inductive Base : Role → List Level → List (Frame Product Callback) → Prop where
  | job (path : Path) : Base .worker [.guard path] []
  | tick : Base .ticker [] []
  | step {role : Role} {levels : List Level} {frames : List (Frame Product Callback)} (wish : Wish)
      (keeps : wish.held? = none) (context : Context role levels frames) : Base role (.expect wish :: levels) frames

inductive Context : Role → List Level → List (Frame Product Callback) → Prop where
  | outermost : Context .client [] []
  | callback {role : Role} {levels : List Level} {frames : List (Frame Product Callback)} (path : Path)
      (left : List Scenario.Step) (replies : List Scenario.Reply) (number : Nat) (task : Task Callback)
      (callback : Callback) (allowed : Scenario.areOpen left = true)
      (harmless : Harmless (.calling callback)) (base : Base role levels frames) :
      Context role (.script (.callback path) left replies :: .activity (.calling callback) :: levels)
        (⟨number, task, .calling callback⟩ :: frames)
  | hook {role : Role} {levels : List Level} {frames : List (Frame Product Callback)} (point : HookPoint) (path : Path)
      (left : List Scenario.Step) (replies : List Scenario.Reply) (call : EngineCall) (stage : CallStage) (number : Nat)
      (task : Task Callback) (activity : Activity Product Callback) (allowed : Scenario.areOpen left = true)
      (asks : Asks activity call) (harmless : Harmless activity) (base : Base role levels frames) :
      Context role (.script (.hook point path) left replies :: .call call stage :: .activity activity :: levels)
        (⟨number, task, activity⟩ :: frames)

end

/-- The levels of a thread, the frames that they stand for, and the thread that is about to take a unit for it. -/
inductive LevelsRepresented :
    Role → List Level → List (Frame Product Callback) → List (Thread Product Callback) → Prop where
  | done {role : Role} (reply : Scenario.Reply) : LevelsRepresented role [.finished reply] [] []
  | perform {role : Role} {levels : List Level} {frames : List (Frame Product Callback)} (step : Scenario.Step)
      (allowed : step.isOpen = true) (context : Context role levels frames) :
      LevelsRepresented role (.perform step :: levels) frames []
  | await {role : Role} {levels : List Level} {frames : List (Frame Product Callback)}
      (condition : Scenario.Condition) (reply : Scenario.Reply) (context : Context role levels frames) :
      LevelsRepresented role (.await condition reply :: levels) frames []
  | join {role : Role} {levels : List Level} {frames : List (Frame Product Callback)} (thread : String)
      (context : Context role levels frames) : LevelsRepresented role (.join thread :: levels) frames []
  | unwinding {role : Role} {levels : List Level} {frames : List (Frame Product Callback)}
      (context : Context role levels frames) : LevelsRepresented role (.unwinding :: levels) frames []
  | script {role : Role} {levels : List Level} {frames : List (Frame Product Callback)} (origin : Origin)
      (left : List Scenario.Step) (replies : List Scenario.Reply)
      (context : Context role (.script origin left replies :: levels) frames) :
      LevelsRepresented role (.script origin left replies :: levels) frames []
  | active {role : Role} {levels : List Level} {frames : List (Frame Product Callback)} (number : Nat)
      (task : Task Callback) (activity : Activity Product Callback) (harmless : Harmless activity)
      (base : Base role levels frames) :
      LevelsRepresented role (.activity activity :: levels) (⟨number, task, activity⟩ :: frames) []
  | call {role : Role} {levels : List Level} {frames : List (Frame Product Callback)} (call : EngineCall)
      (stage : CallStage) (number : Nat) (task : Task Callback) (activity : Activity Product Callback)
      (asks : Asks activity call) (harmless : Harmless activity) (base : Base role levels frames) :
      LevelsRepresented role (.call call stage :: .activity activity :: levels) (⟨number, task, activity⟩ :: frames) []
  | holding {role : Role} {levels : List Level} {frames : List (Frame Product Callback)} (wish : Wish)
      (handle : Handle) (number : Nat) (task : Task Callback) (keeps : wish.held? = some handle)
      (context : Context role levels frames) :
      LevelsRepresented role (.activity (.acquire handle .hold) :: .expect wish :: levels) frames
        [{ role := .client, stack := [⟨number, task, .acquire handle .hold⟩] }]

def LevelsRepresentedBy (role : Role) (levels : List Level) (image : List (Thread Product Callback)) : Prop :=
  ∃ guards frames helpers, image = { role, guards, stack := frames } :: helpers ∧
    LevelsRepresented role levels frames helpers

def RepresentedBy (thread : Scenario.Thread) (image : List (Thread Product Callback)) : Prop :=
  thread.background = (thread.role.inSystem != .client) ∧ LevelsRepresentedBy thread.role.inSystem thread.stack image

def begun (role : Scenario.Role) (step : Scenario.Step) : Scenario.Thread where
  role
  background := false
  stack := [.perform step]

theorem representedBy_begun {role : Scenario.Role} {step : Scenario.Step} (client : role.inSystem = .client)
    (allowed : step.isOpen = true) : RepresentedBy (begun role step) [{ role := .client }] := by
  refine ⟨?_, [], [], [], ?_, ?_⟩
  · simp [begun, client]
  · simp [begun, client]
  · show LevelsRepresented role.inSystem [.perform step] [] []
    rw [client]
    exact .perform step allowed .outermost

def holder (lock : String × Handle) : Thread Product Callback := { role := .client, guards := [lock.2] }

/-- The threads of a system are those that the others of a machine stand for, those that keep units in use for the
locks, those of one thread that is looked at, and such as are no longer needed. -/
def Accounted (threads : List (Thread Product Callback)) (locks : List (String × Handle))
    (others : List Scenario.Thread) (own : List (Thread Product Callback)) : Prop :=
  ∃ (images : List (Scenario.Thread × List (Thread Product Callback))) (spare : List (Thread Product Callback)),
    (∀ pair ∈ images, RepresentedBy pair.1 pair.2) ∧ (images.map Prod.fst).Perm others ∧
    threads.Perm (own ++ (images.flatMap Prod.snd ++ (locks.map holder ++ spare)))

namespace Accounted

open scoped List

variable {threads : List (Thread Product Callback)} {locks : List (String × Handle)}
  {others same : List Scenario.Thread}
  {own extra : List (Thread Product Callback)} {thread : Scenario.Thread}

theorem perm (accounted : Accounted threads locks others own) (moved : others.Perm same) :
    Accounted threads locks same own := by
  obtain ⟨images, spare, all, known, whole⟩ := accounted
  exact ⟨images, spare, all, known.trans moved, whole⟩

theorem perm_own (accounted : Accounted threads locks others own) (moved : own.Perm extra) :
    Accounted threads locks others extra := by
  obtain ⟨images, spare, all, known, whole⟩ := accounted
  exact ⟨images, spare, all, known, whole.trans (moved.append_right _)⟩

theorem spare (accounted : Accounted threads locks others (extra ++ own)) : Accounted threads locks others own := by
  obtain ⟨images, spare, all, known, whole⟩ := accounted
  refine ⟨images, extra ++ spare, all, known, ?_⟩
  let image := images.flatMap Prod.snd
  let holders := locks.map holder
  calc threads
    _ ~ extra ++ own ++ (image ++ (holders ++ spare)) := whole
    _ = extra ++ (own ++ (image ++ (holders ++ spare))) := List.append_assoc ..
    _ ~ own ++ (extra ++ (image ++ (holders ++ spare))) := List.perm_append_comm_assoc ..
    _ ~ own ++ (image ++ (extra ++ (holders ++ spare))) := (List.perm_append_comm_assoc ..).append_left own
    _ ~ own ++ (image ++ (holders ++ (extra ++ spare))) :=
      ((List.perm_append_comm_assoc ..).append_left image).append_left own

theorem add (accounted : Accounted threads locks others (own ++ extra)) (represented : RepresentedBy thread own) :
    Accounted threads locks (thread :: others) extra := by
  obtain ⟨images, spare, all, known, whole⟩ := accounted
  refine ⟨(thread, own) :: images, spare, List.forall_mem_cons.mpr ⟨represented, all⟩, known.cons _, whole.trans ?_⟩
  rw [List.flatMap_cons, List.append_assoc, List.append_assoc]
  exact List.perm_append_comm_assoc _ _ _

theorem add_last (accounted : Accounted threads locks others own) (represented : RepresentedBy thread own) :
    Accounted threads locks (thread :: others) [] := by
  refine add ?_ represented
  rwa [List.append_nil]

theorem remove (accounted : Accounted threads locks (thread :: others) []) :
    ∃ own, RepresentedBy thread own ∧ Accounted threads locks others own := by
  obtain ⟨images, spare, all, known, whole⟩ := accounted
  obtain ⟨pair, inside, rfl⟩ := List.mem_map.mp (known.symm.subset List.mem_cons_self)
  obtain ⟨left, right, rfl⟩ := List.append_of_mem inside
  have cut : (left ++ pair :: right).Perm (pair :: (left ++ right)) := List.perm_middle
  refine ⟨pair.2, all pair inside, left ++ right, spare, ?_, ?_, whole.trans ?_⟩
  · exact fun other there => all other (cut.symm.subset (List.mem_cons_of_mem _ there))
  · exact ((cut.map Prod.fst).symm.trans known).cons_inv
  · have image := (cut.flatMap_right Prod.snd).append_right (locks.map holder ++ spare)
    rw [List.flatMap_cons, List.append_assoc] at image
    exact image

/-- Threads that are gone from the machine stay in the system. -/
theorem filter (accounted : Accounted threads locks others own) (stays : Scenario.Thread → Bool) :
    Accounted threads locks (others.filter stays) own := by
  obtain ⟨images, spare, all, known, whole⟩ := accounted
  have cut : (images.filter (fun pair => stays pair.1) ++ images.filter fun pair => !stays pair.1).Perm images :=
    List.filter_append_perm _ _
  refine ⟨images.filter fun pair => stays pair.1,
    (images.filter fun pair => !stays pair.1).flatMap Prod.snd ++ spare, ?_, ?_, whole.trans ?_⟩
  · exact fun pair inside => all pair (List.mem_of_mem_filter inside)
  · have names : (images.filter fun pair => stays pair.1).map Prod.fst = (images.map Prod.fst).filter stays :=
      (List.filter_map ..).symm
    rw [names]
    exact known.filter stays
  · let held := locks.map holder
    let stay := (images.filter fun pair => stays pair.1).flatMap Prod.snd
    let gone := (images.filter fun pair => !stays pair.1).flatMap Prod.snd
    have image : images.flatMap Prod.snd ~ stay ++ gone := by
      rw [← List.flatMap_append]
      exact (cut.flatMap_right Prod.snd).symm
    calc own ++ (images.flatMap Prod.snd ++ (held ++ spare))
      _ ~ own ++ (stay ++ gone ++ (held ++ spare)) := (image.append_right _).append_left own
      _ = own ++ (stay ++ (gone ++ (held ++ spare))) := by rw [List.append_assoc]
      _ ~ own ++ (stay ++ (held ++ (gone ++ spare))) :=
        ((List.perm_append_comm_assoc ..).append_left stay).append_left own

theorem lock {handle : Handle}
    (accounted : Accounted threads locks others ({ role := .client, guards := [handle] } :: own)) (slot : String) :
    Accounted threads ((slot, handle) :: locks) others own := by
  obtain ⟨images, spare, all, known, whole⟩ := accounted
  refine ⟨images, spare, all, known, whole.trans ?_⟩
  have moved : (holder (slot, handle) :: ((own ++ images.flatMap Prod.snd) ++ (locks.map holder ++ spare))).Perm
      ((own ++ images.flatMap Prod.snd) ++ holder (slot, handle) :: (locks.map holder ++ spare)) :=
    List.perm_middle.symm
  rw [List.append_assoc, List.append_assoc] at moved
  exact moved

theorem unlock (accounted : Accounted threads locks others own) (stays : String × Handle → Bool) :
    Accounted threads (locks.filter stays) others ((locks.filter fun lock => !stays lock).map holder ++ own) := by
  obtain ⟨images, spare, all, known, whole⟩ := accounted
  refine ⟨images, spare, all, known, ?_⟩
  let image := images.flatMap Prod.snd
  let held := (locks.filter stays).map holder
  let freed := (locks.filter fun lock => !stays lock).map holder
  have cut : locks.map holder ~ freed ++ held := by
    rw [← List.map_append]
    exact ((List.perm_append_comm.trans (List.filter_append_perm stays locks)).symm).map holder
  calc threads
    _ ~ own ++ (image ++ (locks.map holder ++ spare)) := whole
    _ ~ own ++ (image ++ (freed ++ held ++ spare)) := ((cut.append_right spare).append_left image).append_left own
    _ = own ++ (image ++ (freed ++ (held ++ spare))) := by rw [List.append_assoc]
    _ ~ own ++ (freed ++ (image ++ (held ++ spare))) := (List.perm_append_comm_assoc ..).append_left own
    _ ~ freed ++ (own ++ (image ++ (held ++ spare))) := List.perm_append_comm_assoc ..
    _ = freed ++ own ++ (image ++ (held ++ spare)) := (List.append_assoc ..).symm

end Accounted

/-- A store, with the locks taken and the threads of a machine besides one, is as a run leaves it, in which that thread
stands for threads of its own. -/
structure Stands (flags : ParseFlags) (capacity : Nat) (store : Store Product Callback) (locks : List (String × Handle))
    (living : Bool) (others : List Scenario.Thread) (own : List (Thread Product Callback)) : Prop where
  isOpen : living = true → store.queue.isOpen = true
  harmless : ∀ job ∈ store.queue.jobs, ∀ callback ∈ job.callback, Scenario.areOpen callback.steps = true
  reached : ∃ (roles : List Role) (history : List (Moment Product Callback)) (system : System Product Callback),
    Run flags capacity roles history system ∧ system.store = store ∧ (living = true → system.stopping = false) ∧
    Accounted system.threads locks others own

namespace Stands

variable {flags : ParseFlags} {capacity : Nat} {store next : Store Product Callback}
  {locks kept : List (String × Handle)}
  {living : Bool} {others same : List Scenario.Thread} {own extra : List (Thread Product Callback)} {role : Role}
  {guards : List Handle} {frames : List (Frame Product Callback)}

theorem recount (stands : Stands flags capacity store locks living others own)
    (counts : ∀ threads, Accounted threads locks others own → Accounted threads kept same extra) :
    Stands flags capacity store kept living same extra := by
  obtain ⟨isOpen, harmless, roles, history, system, run, held, alive, accounted⟩ := stands
  exact ⟨isOpen, harmless, roles, history, system, run, held, alive, counts _ accounted⟩

theorem remove {thread : Scenario.Thread} (stands : Stands flags capacity store locks living (thread :: others) []) :
    ∃ own, RepresentedBy thread own ∧ Stands flags capacity store locks living others own := by
  obtain ⟨isOpen, harmless, roles, history, system, run, held, alive, accounted⟩ := stands
  obtain ⟨own, represented, accounted⟩ := accounted.remove
  exact ⟨own, represented, isOpen, harmless, roles, history, system, run, held, alive, accounted⟩

theorem widen (stands : Stands flags capacity store locks living others own) (role : Role) :
    Stands flags capacity store locks living others ({ role } :: own) := by
  obtain ⟨isOpen, harmless, roles, history, system, run, held, alive, images, spare, all, known, whole⟩ := stands
  obtain ⟨longer, run⟩ := run.widen role
  refine ⟨isOpen, harmless, roles ++ [role], longer, system.widen role, run, held, alive, images, spare, all, known,
    ?_⟩
  exact (List.perm_append_singleton _ _).trans (whole.cons _)

theorem act {thread : Thread Product Callback} {choice : Choice Product Callback}
    {comes : Thread Product Callback → Prop}
    (stands : Stands flags capacity store locks living others (thread :: own))
    (acted : ∀ clock, ∃ later, thread.act? clock store choice = some (next, later) ∧ comes later)
    (isOpen : living = true → next.queue.isOpen = true)
    (harmless : ∀ job ∈ next.queue.jobs, ∀ callback ∈ job.callback, Scenario.areOpen callback.steps = true) :
    ∃ later, comes later ∧ Stands flags capacity next locks living others (later :: own) := by
  obtain ⟨_, _, roles, history, system, run, rfl, alive, images, spare, all, known, whole⟩ := stands
  obtain ⟨later, acted, comes⟩ := acted system.clock
  obtain ⟨index, behind, made, held, stopping, moved⟩ := move?_of_perm whole acted
  exact ⟨later, comes, isOpen, harmless, roles, _, behind, run.move made, held,
    fun living => stopping.trans (alive living), images, spare, all, known, moved⟩

theorem goesOn {frame : Frame Product Callback} {rest : List (Frame Product Callback)}
    {choice : Choice Product Callback} {turn : Turn Product Callback} {left : Option (Frame Product Callback)}
    (stands : Stands flags capacity store locks living others ({ role, guards, stack := frame :: rest } :: own))
    (allowed : Harmless frame.activity) (chosen : turn? (role != .client) store frame.activity choice = some turn)
    (made : frame.after? turn = some (next, left)) :
    Stands flags capacity next locks living others (.goesOn role guards frame left rest :: own) := by
  have queue : next.queue = store.queue ∨ ∃ job giving, frame.activity = .enqueue job giving ∧
      (store.enqueue (role != .client) job).1 = .accepted ∧
      next.queue = { store.queue with jobs := store.queue.jobs ++ [job] } := by
    obtain ⟨_, _, _, _, system, run, rfl, _, _, _, _, _, whole⟩ := stands
    have inside : frame ∈ system.frames :=
      List.mem_flatMap.mpr ⟨_, whole.symm.subset List.mem_cons_self, List.mem_cons_self⟩
    exact queue_of_turn run.sound.1.keyed (run.sound.1.fits frame inside) chosen made
  have acted (clock : Nat) : ∃ later, Thread.act? clock store { role, guards, stack := frame :: rest } choice =
      some (next, later) ∧ later = .goesOn role guards frame left rest := ⟨_, act?_of_turn chosen made clock, rfl⟩
  have isOpen (living : living = true) : next.queue.isOpen = true := by
    rcases queue with same | ⟨_, _, _, _, same⟩ <;> rw [same] <;> exact stands.isOpen living
  have harmless : ∀ job ∈ next.queue.jobs, ∀ callback ∈ job.callback, Scenario.areOpen callback.steps = true := by
    intro job waits
    rcases queue with same | ⟨queued, giving, activity, _, same⟩
    · rw [same] at waits
      exact stands.harmless job waits
    · rw [same] at waits
      rcases List.mem_append.mp waits with waits | waits
      · exact stands.harmless job waits
      · rw [List.mem_singleton.mp waits]
        intro callback called
        refine allowed callback ?_
        rw [activity]
        exact called
  obtain ⟨_, rfl, stands⟩ := stands.act acted isOpen harmless
  exact stands

theorem call (stands : Stands flags capacity store locks living others ({ role, guards, stack := frames } :: own))
    (may : Thread.mayCall { role, guards, stack := frames : Thread Product Callback } = true)
    (operation : Operation Callback) :
    ∃ number, Stands flags capacity store locks living others
      ({ role, guards, stack := ⟨number, .operation operation, operation.activity⟩ :: frames } :: own) := by
  have acted (clock : Nat) : ∃ later, Thread.act? clock store { role, guards, stack := frames } (.call operation) =
      some (store, later) ∧ ∃ number : Nat,
        later = { role, guards, stack := ⟨number, .operation operation, operation.activity⟩ :: frames } :=
    ⟨_, by simp only [Thread.act?, may, if_true]; rfl, clock, rfl⟩
  obtain ⟨_, ⟨number, rfl⟩, stands⟩ := stands.act acted stands.isOpen stands.harmless
  exact ⟨number, stands⟩

theorem release {handle : Handle}
    (stands : Stands flags capacity store locks living others ({ role := .client, guards := [handle] } :: own)) :
    Stands flags capacity (store.unlock handle.number) locks living others own := by
  have acted (clock : Nat) : ∃ later,
      Thread.act? clock store { role := .client, guards := [handle] } (.release handle) =
        some (store.unlock handle.number, later) ∧ True :=
    ⟨_, by simp [Thread.act?, Thread.atLarge]; rfl, trivial⟩
  obtain ⟨later, _, stands⟩ := stands.act acted stands.isOpen stands.harmless
  exact stands.recount fun _ (accounted : Accounted _ _ _ ([later] ++ own)) => accounted.spare

theorem unlock {slot : String} {handle : Handle} (stands : Stands flags capacity store locks living others own)
    (found : locks.lookup slot = some handle) :
    Stands flags capacity (store.unlock handle.number) (locks.filter fun lock => lock.1 != slot) living others own := by
  have inside : (slot, handle) ∈ locks.filter fun lock => !(lock.1 != slot) := by
    obtain ⟨left, right, rfl, _⟩ := List.lookup_eq_some_iff.mp found
    simp
  obtain ⟨left, right, cut⟩ := List.append_of_mem inside
  have looked_at : Stands flags capacity store (locks.filter fun lock => lock.1 != slot) living others
      ({ role := .client, guards := [handle] } :: ((left ++ right).map holder ++ own)) := by
    refine stands.recount fun _ accounted => (accounted.unlock fun lock => lock.1 != slot).perm_own ?_
    rw [cut, ← List.cons_append]
    exact (List.perm_middle.map holder).append_right own
  exact looked_at.release.recount fun _ accounted => accounted.spare

theorem drop (stands : Stands flags capacity store locks true others own) :
    Stands flags capacity (Store.closeQueue { store with queue := { store.queue with jobs := [] } }) locks false others
      own := by
  obtain ⟨isOpen, _, roles, history, system, run, rfl, _, accounted⟩ := stands
  have stopped := run.move (rfl : system.move? .stop = some _)
  obtain ⟨longer, later, run, stopping, same, held⟩ := stopped.discard_all rfl (isOpen rfl)
  have made : later.move? .close =
      some { later with store := later.store.closeQueue, clock := later.clock + 1 } := by
    simp [System.move?, stopping]
  refine ⟨by simp, by simp [Store.closeQueue], roles, _, _, run.move made, congrArg Store.closeQueue held, by simp, ?_⟩
  have threads : later.threads = system.threads := same
  rw [← threads] at accounted
  exact accounted

theorem take {job : Job Callback} (stands : Stands flags capacity store locks living others own)
    (taken : store.dequeue = some (job, next)) :
    ∃ number, Stands flags capacity next locks living others
      ({ role := .worker, stack := [⟨number, .job job, .ofJob job⟩] } :: own) := by
  obtain ⟨jobs, _⟩ := dequeue_cases taken
  have acted (clock : Nat) : ∃ later, Thread.act? clock store { role := .worker } .take = some (next, later) ∧
      ∃ number : Nat, later = { role := .worker, stack := [⟨number, .job job, .ofJob job⟩] } :=
    ⟨_, by simp only [Thread.act?, taken]; rfl, clock, rfl⟩
  have isOpen : next.queue.isOpen = store.queue.isOpen := by
    unfold Store.dequeue at taken
    split at taken
    next => cases taken
    next =>
      simp only [Option.ite_none_right_eq_some, Option.some.injEq, Prod.mk.injEq] at taken
      rw [← taken.2.2]
  have harmless : ∀ job ∈ next.queue.jobs, ∀ callback ∈ job.callback, Scenario.areOpen callback.steps = true := by
    intro job waits
    refine stands.harmless job ?_
    rw [jobs]
    exact List.mem_cons_of_mem _ waits
  obtain ⟨_, ⟨number, rfl⟩, stands⟩ :=
    (stands.widen .worker).act acted (fun living => isOpen.trans (stands.isOpen living)) harmless
  exact ⟨number, stands⟩

theorem tick (stands : Stands flags capacity store locks living others own) :
    ∃ number, Stands flags capacity store locks living others
      ({ role := .ticker, stack := [⟨number, .tick, .collect⟩] } :: own) := by
  have acted (clock : Nat) : ∃ later, Thread.act? clock store { role := .ticker } .tick = some (store, later) ∧
      ∃ number : Nat, later = { role := .ticker, stack := [⟨number, .tick, .collect⟩] } := ⟨_, rfl, clock, rfl⟩
  obtain ⟨_, ⟨number, rfl⟩, stands⟩ := (stands.widen .ticker).act acted stands.isOpen stands.harmless
  exact ⟨number, stands⟩

end Stands

end UnitCache.Interleaving
