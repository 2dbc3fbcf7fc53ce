import Mathlib.Data.List.Nodup
import UnitCache.Proofs.Course
/-!
What each thing that was begun has done. A move begins something, or lets the frame of something begun go on, or does
neither. So whatever was begun is in progress or has ended, and what is told of it by its acts is proved along them,
without regard to other threads.
-/
namespace UnitCache.Interleaving

variable {α κ : Type}

/-- A frame that goes on as chosen, in a store. -/
structure Act (α κ : Type) where
  background : Bool
  store : Store α κ
  frame : Frame α κ
  choice : Choice α κ

def Act.turn? (act : Act α κ) : Option (Turn α κ) :=
  Interleaving.turn? act.background act.store act.frame.activity act.choice

def Act.outcome? (act : Act α κ) : Option Outcome :=
  match act.turn? with
  | some (.done _ outcome _) => some outcome
  | _ => none

def Moment.act? (moment : Moment α κ) : Option (Act α κ) :=
  match moment.move with
  | .thread index choice => do
    let thread ← moment.system.threads[index]?
    let frame ← thread.stack.head?
    let act : Act α κ := ⟨thread.background, moment.system.store, frame, choice⟩
    if act.turn?.isSome then some act else none
  | _ => none

def Moment.begins? (moment : Moment α κ) : Option (Nat × Task κ) :=
  match moment.move with
  | .thread _ (.call operation) => some (moment.system.clock, .operation operation)
  | .thread _ .take => moment.system.store.dequeue.map fun taken => (moment.system.clock, .job taken.1)
  | .thread _ .tick => some (moment.system.clock, .tick)
  | _ => none

/-- The job that leaves the queue at a moment, and the number under which it is run unless it is thrown away. -/
def Moment.departs? (moment : Moment α κ) : Option (Option Nat × Job κ) :=
  match moment.move with
  | .thread _ .take => moment.system.store.dequeue.map fun taken => (some moment.system.clock, taken.1)
  | .discard => moment.system.store.dequeue.map fun taken => (none, taken.1)
  | _ => none

def started (history : List (Moment α κ)) : List (Nat × Task κ) := history.filterMap Moment.begins?

def allActs (history : List (Moment α κ)) : List (Act α κ) := history.filterMap Moment.act?

def acts (number : Nat) (history : List (Moment α κ)) : List (Act α κ) :=
  (allActs history).filter fun act => act.frame.number == number

def outcome? (number : Nat) (history : List (Moment α κ)) : Option Outcome :=
  (acts number history).getLast?.bind Act.outcome?

inductive Begins : Task κ → Activity α κ → Prop where
  | operation (operation : Operation κ) : Begins (.operation operation) operation.activity
  | job (job : Job κ) : Begins (.job job) (.ofJob job)
  | tick : Begins .tick .collect

/-- A store in which no unit came or went, and nothing was counted. -/
structure Untouched (store next : Store α κ) : Prop where
  units : next.units = store.units
  counters : next.counters = store.counters
  made : next.cells.length = store.cells.length

def Task.job? : Task κ → Option (Job κ)
  | .job work => some work
  | _ => none

def Moment.Leaves (moment : Moment α κ) (next : Store α κ) : Prop :=
  moment.system.store.queue.jobs = (moment.departs?.map Prod.snd).toList ++ next.queue.jobs

/-- What a move does to what is begun: a frame goes on and perhaps ends, or one comes, or all stay as they are. -/
inductive Progress (system : System α κ) (move : Move α κ) (next : System α κ) : Prop where
  | acts (act : Act α κ) (turn : Turn α κ) (left : Option (Frame α κ)) (others : List (Frame α κ))
      (told : Moment.act? ⟨system, move⟩ = some act) (old : Moment.begins? ⟨system, move⟩ = none)
      (here : act.store = system.store) (turned : act.turn? = some turn)
      (made : act.frame.after? turn = some (next.store, left))
      (was : system.frames.Perm (act.frame :: others)) (is : next.frames.Perm (left.toList ++ others))
      (stays : Moment.departs? ⟨system, move⟩ = none)
  | begins (task : Task κ) (activity : Activity α κ) (idle : Moment.act? ⟨system, move⟩ = none)
      (told : Moment.begins? ⟨system, move⟩ = some (system.clock, task)) (first : Begins task activity)
      (is : next.frames.Perm (⟨system.clock, task, activity⟩ :: system.frames))
      (same : Untouched system.store next.store)
      (taken : Moment.departs? ⟨system, move⟩ = task.job?.map (some system.clock, ·))
      (leaves : Moment.Leaves ⟨system, move⟩ next.store)
  | rests (idle : Moment.act? ⟨system, move⟩ = none) (old : Moment.begins? ⟨system, move⟩ = none)
      (is : next.frames.Perm system.frames) (same : Untouched system.store next.store)
      (thrown : ∀ pair ∈ Moment.departs? ⟨system, move⟩, pair.1 = none)
      (leaves : Moment.Leaves ⟨system, move⟩ next.store)

theorem untouched_dequeue {store next : Store α κ} {job : Job κ} (taken : store.dequeue = some (job, next)) :
    Untouched store next := by
  rw [(dequeue_eq taken).2]
  exact ⟨rfl, rfl, rfl⟩

theorem act?_eq_none {system : System α κ} {index : Nat} {choice : Choice α κ}
    (idle : ∀ (background : Bool) (activity : Activity α κ), turn? background system.store activity choice = none) :
    Moment.act? ⟨system, .thread index choice⟩ = none := by
  simp [Moment.act?, Act.turn?, idle]

section Moves

variable {system next : System α κ} {move : Move α κ}

theorem progress_of_move (made : system.move? move = some next) : Progress system move next := by
  rcases move?_cases made with ⟨index, choice, thread, later, rfl, found, acted, threads, _⟩ |
    ⟨rfl, store, threads, _⟩ | ⟨job, rfl, taken, threads, _⟩ | ⟨rfl, store, threads, _⟩
  · obtain ⟨others, before, behind⟩ := frames_set found later
    have is : next.frames.Perm (later.stack ++ others) := by rwa [System.frames, threads]
    rcases act?_cases acted with ⟨operation, rfl, store, rfl⟩ | ⟨handle, rfl, store, stack⟩ | ⟨job, rfl, taken, rfl⟩ |
      ⟨rfl, store, rfl⟩ | goes
    · exact .begins _ _ (act?_eq_none fun _ _ => rfl) rfl (.operation operation) (is.trans (before.symm.cons _))
        (by rw [store]; exact ⟨rfl, rfl, rfl⟩) rfl (by rw [store]; rfl)
    · rw [stack] at is
      refine .rests (act?_eq_none fun _ _ => rfl) rfl (is.trans before.symm) ?_ (by rintro _ ⟨⟩) (by rw [store]; rfl)
      rw [store]
      exact ⟨rfl, rfl, List.length_modify ..⟩
    · have leaves : Moment.departs? (⟨system, .thread index .take⟩ : Moment α κ) = some (some system.clock, job) := by
        simp [Moment.departs?, taken]
      refine .begins _ _ (act?_eq_none fun _ _ => rfl) (by simp [Moment.begins?, taken]) (.job job)
        (is.trans (before.symm.cons _)) (untouched_dequeue taken) leaves ?_
      rw [Moment.Leaves, leaves]
      exact (dequeue_cases taken).1
    · exact .begins _ _ (act?_eq_none fun _ _ => rfl) rfl .tick (is.trans (before.symm.cons _))
        (by rw [store]; exact ⟨rfl, rfl, rfl⟩) rfl (by rw [store]; rfl)
    · obtain ⟨frame, rest, turn, left, stack, chosen, went, kept⟩ := goes
      have told : Moment.act? ⟨system, .thread index choice⟩ =
          some ⟨thread.background, system.store, frame, choice⟩ := by
        simp [Moment.act?, found, stack, Act.turn?, chosen]
      have old : Moment.begins? (⟨system, .thread index choice⟩ : Moment α κ) = none := by
        cases choice <;> first | rfl | cases chosen
      rw [stack, List.cons_append] at before
      rw [kept, List.append_assoc] at is
      have stays : Moment.departs? (⟨system, .thread index choice⟩ : Moment α κ) = none := by
        cases choice <;> first | rfl | cases chosen
      exact .acts _ turn left _ told old rfl chosen went before is stays
  · exact .rests rfl rfl (by rw [System.frames, threads]; rfl) (by rw [store]; exact ⟨rfl, rfl, rfl⟩) (by rintro _ ⟨⟩)
      (by rw [store]; rfl)
  · have leaves : Moment.departs? (⟨system, .discard⟩ : Moment α κ) = some (none, job) := by
      simp [Moment.departs?, taken]
    refine .rests rfl rfl (by rw [System.frames, threads]; rfl) (untouched_dequeue taken) ?_ ?_
    · rw [leaves]
      rintro _ ⟨⟩
      rfl
    · rw [Moment.Leaves, leaves]
      exact (dequeue_cases taken).1
  · exact .rests rfl rfl (by rw [System.frames, threads]; rfl) (by rw [store]; exact ⟨rfl, rfl, rfl⟩) (by rintro _ ⟨⟩)
      (by rw [store]; rfl)

theorem acts_append (number : Nat) (history : List (Moment α κ)) (moment : Moment α κ) :
    acts number (history ++ [moment]) =
      acts number history ++ (moment.act?.filter fun act => act.frame.number == number).toList := by
  rw [acts, allActs, List.filterMap_append, List.filter_append, acts, allActs]
  congr 1
  cases told : moment.act? with
  | none => simp [told]
  | some act => by_cases own : act.frame.number = number <;> simp [told, own, Option.filter]

theorem acts_append_idle (number : Nat) (history : List (Moment α κ)) {moment : Moment α κ}
    (idle : moment.act? = none) : acts number (history ++ [moment]) = acts number history := by
  rw [acts_append, idle]
  exact List.append_nil _

theorem acts_append_own (history : List (Moment α κ)) {moment : Moment α κ} {act : Act α κ}
    (told : moment.act? = some act) :
    acts act.frame.number (history ++ [moment]) = acts act.frame.number history ++ [act] := by
  rw [acts_append, told]
  simp [Option.filter]

theorem acts_append_apart {number : Nat} (history : List (Moment α κ)) {moment : Moment α κ} {act : Act α κ}
    (told : moment.act? = some act) (apart : act.frame.number ≠ number) :
    acts number (history ++ [moment]) = acts number history := by
  rw [acts_append, told]
  simp [Option.filter, apart]

theorem outcome?_append_own (history : List (Moment α κ)) {moment : Moment α κ} {act : Act α κ}
    (told : moment.act? = some act) : outcome? act.frame.number (history ++ [moment]) = act.outcome? := by
  rw [outcome?, acts_append_own history told, List.getLast?_concat]
  rfl

end Moves

def Leads (turn : Turn α κ) (goes_on : Activity α κ → Prop) (ends : Outcome → Prop) : Prop :=
  match turn with
  | .next _ activity _ => goes_on activity
  | .done _ outcome _ => ends outcome
  | _ => True

theorem leads_anywhere (turn : Turn α κ) : Leads turn (fun _ => True) (fun _ => True) := by cases turn <;> trivial

/-- How something fares that was begun: it is in progress, or it has ended, and in either case something holds of its
acts. -/
inductive Fares (keeps : List (Act α κ) → Task κ → Activity α κ → Prop)
    (ends : List (Act α κ) → Task κ → Outcome → Prop) (history : List (Moment α κ)) (system : System α κ) (number : Nat)
    (task : Task κ) : Prop where
  | goes_on (activity : Activity α κ) (inside : ⟨number, task, activity⟩ ∈ system.frames)
      (pending : outcome? number history = none) (kept : keeps (acts number history) task activity)
  | finished (gone : number ∉ system.numbers) (outcome : Outcome) (told : outcome? number history = some outcome)
      (ended : ends (acts number history) task outcome)

section Runs

variable {flags : ParseFlags} {capacity : Nat} {roles : List Role} {history : List (Moment α κ)} {system : System α κ}

theorem Run.frame_eq (run : Run flags capacity roles history system) {frame other : Frame α κ}
    (inside : frame ∈ system.frames) (there : other ∈ system.frames) (same : frame.number = other.number) :
    frame = other :=
  List.inj_on_of_nodup_map run.numbered.1 inside there same

theorem act_inside {before : System α κ} {move : Move α κ} {act : Act α κ}
    (told : Moment.act? ⟨before, move⟩ = some act) : act.frame ∈ before.frames := by
  cases move with
  | thread index choice =>
    simp only [Moment.act?, Option.bind_eq_bind, Option.bind_eq_some_iff, Option.ite_none_right_eq_some,
      Option.some.injEq] at told
    obtain ⟨thread, found, frame, top, _, rfl⟩ := told
    exact List.mem_flatMap.mpr ⟨thread, List.mem_of_getElem? found, List.mem_of_mem_head? top⟩
  | _ => cases told

theorem act_store {move : Move α κ} {act : Act α κ} (told : Moment.act? ⟨system, move⟩ = some act) :
    act.store = system.store := by
  cases move with
  | thread index choice =>
    simp only [Moment.act?, Option.bind_eq_bind, Option.bind_eq_some_iff, Option.ite_none_right_eq_some,
      Option.some.injEq] at told
    obtain ⟨_, _, _, _, _, rfl⟩ := told
    rfl
  | _ => cases told

theorem Run.keyed_of_act (run : Run flags capacity roles history system) {move : Move α κ} {act : Act α κ}
    (told : Moment.act? ⟨system, move⟩ = some act) : Keyed act.store := by
  rw [act_store told]
  exact run.sound.1.keyed

section Beside

variable {system next : System α κ} {act : Act α κ} {left : Option (Frame α κ)} {others : List (Frame α κ)}
  {frame : Frame α κ}

theorem left_or_beside (is : next.frames.Perm (left.toList ++ others)) (inside : frame ∈ next.frames) :
    left = some frame ∨ frame ∈ others :=
  (List.mem_append.mp (is.subset inside)).imp_left Option.mem_toList.mp

theorem stays_beside (was : system.frames.Perm (act.frame :: others)) (is : next.frames.Perm (left.toList ++ others))
    (inside : frame ∈ system.frames) (apart : frame ≠ act.frame) : frame ∈ next.frames :=
  is.symm.subset (List.mem_append_right _ ((List.mem_cons.mp (was.subset inside)).resolve_left apart))

theorem number_apart (numbered : system.numbers.Nodup) (was : system.frames.Perm (act.frame :: others)) :
    act.frame.number ∉ others.map Frame.number :=
  (List.nodup_cons.mp ((was.map Frame.number).nodup_iff.mp numbered)).1

end Beside

/-- Whatever is in progress was begun, and what was begun is told apart by its number. -/
theorem Run.started (run : Run flags capacity roles history system) :
    (∀ frame ∈ system.frames, (frame.number, frame.task) ∈ started history) ∧
      (∀ pair ∈ started history, pair.1 < system.clock) ∧ ((started history).map Prod.fst).Nodup := by
  induction run with
  | start => exact ⟨by simp [frames_start], by simp [Interleaving.started], List.nodup_nil⟩
  | @move history system next move run made ih =>
    obtain ⟨known, past, distinct⟩ := ih
    have clock : next.clock = system.clock + 1 := move?_clock made
    have still (old : Moment.begins? ⟨system, move⟩ = none) :
        Interleaving.started (history ++ [⟨system, move⟩]) = Interleaving.started history := by
      simp [Interleaving.started, old]
    have later (pair : Nat × Task κ) (there : pair ∈ Interleaving.started history) : pair.1 < next.clock := by
      have earlier := past pair there
      omega
    cases progress_of_move made with
    | acts act turn left others told old here turned went was is =>
      rw [still old]
      refine ⟨fun frame inside => ?_, later, distinct⟩
      rcases left_or_beside is inside with rfl | other
      · rw [(after?_same went).1, (after?_same went).2]
        exact known act.frame (act_inside told)
      · exact known frame (was.symm.subset (List.mem_cons_of_mem _ other))
    | begins task activity idle told first is =>
      have longer : Interleaving.started (history ++ [⟨system, move⟩]) =
          Interleaving.started history ++ [(system.clock, task)] := by
        simp [Interleaving.started, told]
      rw [longer]
      refine ⟨fun frame inside => ?_, fun pair there => ?_, ?_⟩
      · rcases List.mem_cons.mp (is.subset inside) with rfl | other
        · exact List.mem_append_right _ (List.mem_singleton.mpr rfl)
        · exact List.mem_append_left _ (known frame other)
      · rcases List.mem_append.mp there with there | there
        · exact later pair there
        · rw [List.mem_singleton.mp there]
          omega
      · rw [List.map_append, List.nodup_append]
        refine ⟨distinct, List.nodup_singleton _, ?_⟩
        rintro number earlier _ own rfl
        obtain ⟨pair, there, rfl⟩ := List.mem_map.mp earlier
        have before := past pair there
        rw [List.map_singleton, List.mem_singleton] at own
        omega
    | rests idle old is =>
      rw [still old]
      exact ⟨fun frame inside => known frame (is.subset inside), later, distinct⟩

theorem Run.started_of_act (run : Run flags capacity roles history system) {act : Act α κ}
    (inside : act ∈ allActs history) : (act.frame.number, act.frame.task) ∈ Interleaving.started history := by
  induction run with
  | start => cases inside
  | move run _ ih =>
    rw [allActs, List.filterMap_append] at inside
    rw [Interleaving.started, List.filterMap_append]
    rcases List.mem_append.mp inside with inside | inside
    · exact List.mem_append_left _ (ih inside)
    · obtain ⟨moment, here, told⟩ := List.mem_filterMap.mp inside
      rw [List.mem_singleton.mp here] at told
      exact List.mem_append_left _ (run.started.1 act.frame (act_inside told))

theorem Run.unacted (run : Run flags capacity roles history system) : acts system.clock history = [] := by
  rw [acts, List.filter_eq_nil_iff]
  intro act inside own
  have past := run.started.2.1 _ (run.started_of_act inside)
  rw [beq_iff_eq] at own
  omega

theorem Fares.of_idle {keeps : List (Act α κ) → Task κ → Activity α κ → Prop}
    {ends : List (Act α κ) → Task κ → Outcome → Prop} {later : List (Moment α κ)} {next : System α κ} {number : Nat}
    {task : Task κ} (fares : Fares keeps ends history system number task)
    (idle : acts number later = acts number history)
    (stays : ∀ frame ∈ system.frames, frame.number = number → frame ∈ next.frames)
    (comes : number ∈ next.numbers → number ∈ system.numbers) : Fares keeps ends later next number task := by
  have ended : outcome? number later = outcome? number history := by rw [outcome?, idle, outcome?]
  cases fares with
  | goes_on activity inside pending kept =>
    exact .goes_on activity (stays _ inside rfl) (ended.trans pending) (by rwa [idle])
  | finished gone outcome told kept =>
    exact .finished (fun inside => gone (comes inside)) outcome (ended.trans told) (by rwa [idle])

theorem Run.fares_of_act {keeps : List (Act α κ) → Task κ → Activity α κ → Prop}
    {ends : List (Act α κ) → Task κ → Outcome → Prop} (run : Run flags capacity roles history system) {move : Move α κ}
    {next : System α κ} {store : Store α κ} {act : Act α κ} {turn : Turn α κ} {left : Option (Frame α κ)}
    {others : List (Frame α κ)} {task : Task κ}
    (told : Moment.act? ⟨system, move⟩ = some act) (turned : act.turn? = some turn)
    (made : act.frame.after? turn = some (store, left)) (was : system.frames.Perm (act.frame :: others))
    (is : next.frames.Perm (left.toList ++ others)) (fares : Fares keeps ends history system act.frame.number task)
    (leads : keeps (acts act.frame.number history) act.frame.task act.frame.activity →
      Leads turn (keeps (acts act.frame.number history ++ [act]) act.frame.task)
        (ends (acts act.frame.number history ++ [act]) act.frame.task)) :
    Fares keeps ends (history ++ [⟨system, move⟩]) next act.frame.number task := by
  have own : act.frame ∈ system.frames := act_inside told
  have acts_now := acts_append_own history told
  have ended := outcome?_append_own history told
  cases fares with
  | finished gone => exact absurd (List.mem_map_of_mem own) gone
  | goes_on activity inside _ kept =>
    have same : act.frame = ⟨act.frame.number, task, activity⟩ := run.frame_eq own inside rfl
    have its_task : act.frame.task = task := by rw [same]
    have its_activity : act.frame.activity = activity := by rw [same]
    rw [← its_task, ← its_activity] at kept
    have led := leads kept
    rw [← acts_now, its_task] at led
    cases turn with
    | next store later warnings =>
      cases made
      refine .goes_on later (is.symm.subset (List.mem_append_left _ ?_)) ?_ led
      · rw [← its_task]
        exact List.mem_singleton.mpr rfl
      · rw [ended, Act.outcome?, turned]
    | done store outcome warnings =>
      cases made
      refine .finished (fun there => ?_) outcome ?_ led
      · exact number_apart run.numbered.1 was ((is.map Frame.number).subset there)
      · rw [ended, Act.outcome?, turned]
    | _ => cases made

/-- What holds of everything begun at first, and is led on by each act, holds of it as long as it is in progress, and
what its last act leads to holds of it from then on. -/
theorem Run.fares {keeps : List (Act α κ) → Task κ → Activity α κ → Prop}
    {ends : List (Act α κ) → Task κ → Outcome → Prop} (run : Run flags capacity roles history system)
    (first : ∀ {task activity}, Begins task activity → keeps [] task activity)
    (step : ∀ {earlier before move act row turn}, Run flags capacity roles earlier before →
      Moment.act? ⟨before, move⟩ = some act → act.turn? = some turn → keeps row act.frame.task act.frame.activity →
      Leads turn (keeps (row ++ [act]) act.frame.task) (ends (row ++ [act]) act.frame.task)) :
    ∀ number task, (number, task) ∈ Interleaving.started history → Fares keeps ends history system number task := by
  induction run with
  | start => exact fun _ _ there => absurd there List.not_mem_nil
  | @move history system next move run made ih =>
    intro number task there
    cases progress_of_move made with
    | acts act turn left others told old here turned went was is =>
      have before : (number, task) ∈ Interleaving.started history := by simpa [Interleaving.started, old] using there
      by_cases own : act.frame.number = number
      · subst own
        exact run.fares_of_act told turned went was is (ih _ _ before) (step run told turned)
      · refine (ih _ _ before).of_idle (acts_append_apart history told own)
          (fun frame inside same => stays_beside was is inside ?_) fun inside => ?_
        · rintro rfl
          exact own same
        · obtain ⟨frame, present, rfl⟩ := List.mem_map.mp inside
          rcases left_or_beside is present with rfl | other
          · exact absurd (after?_same went).1.symm own
          · exact List.mem_map_of_mem (was.symm.subset (List.mem_cons_of_mem _ other))
    | begins fresh activity idle told begins is =>
      have either : (number, task) ∈ Interleaving.started history ∨ (number, task) = (system.clock, fresh) := by
        simpa [Interleaving.started, told] using there
      rcases either with before | same
      · refine (ih _ _ before).of_idle (acts_append_idle number history idle)
          (fun frame inside _ => is.symm.subset (List.mem_cons_of_mem _ inside)) fun inside => ?_
        rcases List.mem_cons.mp ((is.map Frame.number).subset inside) with same | other
        · exact absurd same (Nat.ne_of_lt (run.started.2.1 _ before))
        · exact other
      · cases same
        have nothing := run.unacted
        have acts_now := acts_append_idle system.clock history idle
        refine .goes_on activity (is.symm.subset List.mem_cons_self) ?_ ?_
        · rw [outcome?, acts_now, nothing]
          rfl
        · rw [acts_now, nothing]
          exact first begins
    | rests idle old is =>
      have before : (number, task) ∈ Interleaving.started history := by simpa [Interleaving.started, old] using there
      exact (ih _ _ before).of_idle (acts_append_idle number history idle)
        (fun frame inside _ => is.symm.subset inside) fun inside => (is.map Frame.number).subset inside

end Runs

end UnitCache.Interleaving
