import Mathlib.Data.List.Pairwise
import UnitCache.Proofs.Answers
import UnitCache.Proofs.Deadlock
import UnitCache.Proofs.Origins
/-!
Calls for units of different paths. If clients do nothing else, no call meets what another one has begun or left: each
finds its path blank, has the engine build its unit, and leaves nothing to a job.
-/
namespace UnitCache.Interleaving

variable {α κ : Type}

def Task.call? : Task κ → Option Request
  | .operation (.getUnit request) => some request
  | _ => none

def called (history : List (Moment α κ)) : List Request := (started history).filterMap fun pair => pair.2.call?

def Act.parse? (act : Act α κ) : Option (Request × Answer α) :=
  match act.frame.activity, act.choice with
  | .parsing request _, .parsed answer => some (request, answer)
  | _, _ => none

def parses (history : List (Moment α κ)) : List (Request × Answer α) := (allActs history).filterMap Act.parse?

def refuses : Answer α → Bool
  | .error _ => true
  | _ => false

structure UnitCalls (history : List (Moment α κ)) : Prop where
  calls : ∀ number operation, (number, .operation operation) ∈ started history → ∃ request, operation = .getUnit request
  calm : ∀ act ∈ allActs history, act.choice ≠ .parsed .panic

/-- Besides, no two of the calls are for the same path. -/
structure OnlyCalls (history : List (Moment α κ)) : Prop extends UnitCalls history where
  apart : (called history).Pairwise fun left right => (left.path == right.path) = false

def View.blank : View := ⟨none, false, none⟩

/-- What a call does that nobody disturbs. -/
inductive Undisturbed (store : Store α κ) (request : Request) : Activity α κ → Prop where
  | looks (blank : view store request.path = .blank) : Undisturbed store request (.lookUp request)
  | builds : Undisturbed store request (.build request (.first request))
  | parses : Undisturbed store request (.parsing request (.first request))
  | keeps (artifact : α) : Undisturbed store request (.keep request artifact (.first request))
  | fails (error : Error) : Undisturbed store request (.noteFailure request error (.first request))
  | settles (built : Option Handle) : Undisturbed store request (.settle (.first request) built)

def Frame.unparsed? (frame : Frame α κ) : Option Request :=
  match frame.activity with
  | .lookUp request | .build request _ | .parsing request _ => some request
  | _ => none

def actsAhead : Activity α κ → Nat
  | .lookUp _ => 5
  | .build .. => 4
  | .parsing .. => 3
  | .keep .. | .noteFailure .. => 2
  | .settle .. => 1
  | _ => 0

def parsesAhead : Activity α κ → Nat
  | .lookUp _ | .build .. => 1
  | _ => 0

section Acts

variable {act : Act α κ} {turn : Turn α κ} {next : Store α κ} {left : Option (Frame α κ)} {request : Request}

structure Act.Keeps (act : Act α κ) (request : Request) (next : Store α κ) (left : Option (Frame α κ)) : Prop where
  elsewhere : ∀ path, (request.path == path) = false → view next path = view act.store path
  queue : next.queue = act.store.queue
  pending : next.pending = act.store.pending
  goesOn : ∀ frame ∈ left, Undisturbed next request frame.activity
  free : left = none → next.isParsing request.path = false
  parses : act.frame.unparsed?.toList = (act.parse?.map Prod.fst).toList ++ (left.bind Frame.unparsed?).toList
  nearer : actsAhead act.frame.activity = 1 + leftWeighs left actsAhead
  counted : (act.counts .parses).toNat + leftWeighs left parsesAhead = parsesAhead act.frame.activity

theorem settle_of_nothing (store : Store α κ) (path : Path) (nothing : store.pending.get? path = none) :
    store.settle path = (none, { store with parsing := store.parsing.erase path }) := by
  rw [Store.settle, nothing]

theorem keeps_of_act (undisturbed : Undisturbed act.store request act.frame.activity)
    (nothing : act.store.pending.get? request.path = none) (calm : act.choice ≠ .parsed .panic)
    (turned : act.turn? = some turn) (made : act.frame.after? turn = some (next, left)) :
    act.Keeps request next left := by
  obtain ⟨background, store, ⟨number, task, activity⟩, choice⟩ := act
  have rule : Rule background store activity choice turn := rule_of_turn turned
  cases undisturbed with
  | looks blank =>
    have absent : store.peek request.path = none := congrArg View.entry blank
    have free : store.isParsing request.path = false := congrArg View.marked blank
    cases rule with
    | hit _ _ found => cases absent.symm.trans found
    | stale _ _ found => cases absent.symm.trans found
    | busy _ _ marked => cases free.symm.trans marked
    | first =>
      cases made
      obtain ⟨_, same⟩ := mark_eq store request.path
      refine ⟨fun path apart => ?_, queue_mark store request.path, by rw [same], ?_, nofun, rfl, rfl, rfl⟩
      · rw [view_mark, if_neg (by simp [apart])]
      · rintro _ ⟨⟩
        exact .builds
  | builds =>
    cases rule with
    | build =>
      cases made
      refine ⟨fun _ _ => rfl, rfl, rfl, ?_, nofun, rfl, rfl, rfl⟩
      rintro _ ⟨⟩
      exact .parses
  | parses =>
    cases rule with
    | askParse => cases made
    | parsed _ _ artifact =>
      cases made
      refine ⟨fun _ _ => rfl, rfl, rfl, ?_, nofun, rfl, rfl, rfl⟩
      rintro _ ⟨⟩
      exact .keeps artifact
    | parseFailed _ _ error =>
      cases made
      refine ⟨fun _ _ => rfl, rfl, rfl, ?_, nofun, rfl, rfl, rfl⟩
      rintro _ ⟨⟩
      exact .fails error
    | parsePanicked => exact absurd rfl calm
  | keeps artifact =>
    cases rule with
    | keep =>
      cases made
      refine ⟨fun path apart => ?_, rfl, rfl, ?_, nofun, rfl, rfl, rfl⟩
      · rw [view_keep, if_neg (by simp [apart])]
      · rintro _ ⟨⟩
        exact .settles _
  | fails error =>
    cases rule with
    | noteFailure =>
      cases made
      refine ⟨fun _ _ => rfl, rfl, rfl, ?_, nofun, rfl, rfl, rfl⟩
      rintro _ ⟨⟩
      exact .settles _
  | settles built =>
    have settled := settle_of_nothing store request.path nothing
    cases rule with
    | settleAlone _ _ alone => cases alone
    | takeOver _ _ _ _ owned given =>
      cases owned
      rw [settled] at given
      cases given
    | settle _ _ _ owned =>
      cases owned
      have apart (path : Path) (away : (request.path == path) = false) :
          view (store.settle request.path).2 path = view store path := view_settle_apart store request.path path away
      rw [settled] at made apart
      cases made
      refine ⟨apart, rfl, rfl, by rintro _ ⟨⟩, fun _ => ?_, rfl, rfl, rfl⟩
      rw [Store.isParsing, PathMap.contains_erase, BEq.rfl]
      rfl

/-- A call that nobody disturbs comes back with a unit or without one. -/
theorem unit_of_undisturbed {outcome : Outcome}
    (undisturbed : Undisturbed act.store request act.frame.activity) (ends : act.outcome? = some outcome) :
    ∃ result, outcome = .unit result := by
  obtain ⟨turn, turned⟩ : ∃ turn, act.turn? = some turn := by
    unfold Act.outcome? at ends
    split at ends
    next turned => exact ⟨_, turned⟩
    next => cases ends
  rw [Act.outcome?, turned] at ends
  obtain ⟨background, store, ⟨number, task, activity⟩, choice⟩ := act
  have rule : Rule background store activity choice turn := rule_of_turn turned
  cases undisturbed with
  | looks | builds => cases rule <;> cases ends <;> exact ⟨_, rfl⟩
  | parses | keeps | fails => cases rule <;> cases ends
  | settles =>
    cases rule with
    | settleAlone _ _ alone => cases alone
    | settle | takeOver => cases ends <;> exact ⟨_, rfl⟩

theorem parse_of_undisturbed (undisturbed : Undisturbed act.store request act.frame.activity)
    (turned : act.turn? = some turn) (speaks : act.fromEngine = true) :
    ∃ answer, act.choice = .parsed answer ∧ act.parse? = some (request, answer) := by
  obtain ⟨background, store, ⟨number, task, activity⟩, choice⟩ := act
  have rule : Rule background store activity choice turn := rule_of_turn turned
  cases undisturbed with
  | parses =>
    cases rule with
    | askParse => cases speaks
    | parsed | parseFailed | parsePanicked => exact ⟨_, rfl, rfl⟩
  | _ => cases rule <;> cases speaks

theorem quiet_of_undisturbed (undisturbed : Undisturbed act.store request act.frame.activity) :
    act.evicts = false ∧ act.refreshFailed = false ∧ act.refreshReturned = false ∧
      act.counts .invalidations = false := by
  unfold Act.evicts Act.refreshFailed Act.refreshReturned Act.counts
  generalize act.frame.activity = activity at undisturbed ⊢
  cases undisturbed <;> simp

end Acts

section Moves

variable {system next : System α κ} {move : Move α κ}

theorem view_of_idle (made : system.move? move = some next) (idle : Moment.act? ⟨system, move⟩ = none)
    (nothing : system.store.queue.jobs = []) :
    next.store.queue.jobs = [] ∧ ∀ path, view next.store path = view system.store path := by
  have none_taken (job : Job κ) (store : Store α κ) : system.store.dequeue ≠ some (job, store) := by
    simp [Store.dequeue, nothing]
  rcases move?_cases made with ⟨index, choice, thread, later, rfl, found, acted, threads, _⟩ |
    ⟨rfl, store, threads, _⟩ | ⟨job, rfl, taken, threads, _⟩ | ⟨rfl, store, threads, _⟩
  · rcases act?_cases acted with ⟨operation, rfl, store, rfl⟩ | ⟨handle, rfl, store, stack⟩ | ⟨job, rfl, taken, rfl⟩ |
      ⟨rfl, store, rfl⟩ | goes
    · rw [store]
      exact ⟨nothing, fun _ => rfl⟩
    · rw [store]
      exact ⟨nothing, fun _ => rfl⟩
    · exact absurd taken (none_taken job _)
    · rw [store]
      exact ⟨nothing, fun _ => rfl⟩
    · obtain ⟨frame, rest, turn, left, stack, chosen, went, kept⟩ := goes
      simp [Moment.act?, found, stack, Act.turn?, chosen] at idle
  · rw [store]
    exact ⟨nothing, fun _ => rfl⟩
  · exact absurd taken (none_taken job _)
  · rw [store]
    exact ⟨nothing, fun _ => rfl⟩

theorem role_of_tick (made : system.move? move = some next) {number : Nat}
    (told : Moment.begins? ⟨system, move⟩ = some (number, .tick)) : Role.ticker ∈ system.threads.map Thread.role := by
  cases move with
  | thread index choice =>
    cases choice with
    | tick =>
      simp only [System.move?, Option.bind_eq_bind, Option.bind_eq_some_iff] at made
      obtain ⟨thread, found, ⟨store, later⟩, acted, _⟩ := made
      simp only [Thread.act?, Option.ite_none_right_eq_some, Bool.and_eq_true, beq_iff_eq] at acted
      exact List.mem_map.mpr ⟨thread, List.mem_of_getElem? found, acted.1.1⟩
    | take => simp [Moment.begins?] at told
    | _ => cases told
  | _ => cases told

end Moves

section Runs

variable {flags : ParseFlags} {capacity : Nat} {roles : List Role} {history : List (Moment α κ)} {system : System α κ}

theorem started_append (history : List (Moment α κ)) (moment : Moment α κ) :
    started (history ++ [moment]) = started history ++ moment.begins?.toList := by
  rw [started, List.filterMap_append, started]
  cases told : moment.begins? <;> simp [told]

theorem called_append (history : List (Moment α κ)) (moment : Moment α κ) :
    called (history ++ [moment]) = called history ++ (moment.begins?.bind fun pair => pair.2.call?).toList := by
  rw [called, started_append, List.filterMap_append, called]
  cases moment.begins? with
  | none => rfl
  | some pair => cases call : pair.2.call? <;> simp [call]

theorem parses_append (history : List (Moment α κ)) (moment : Moment α κ) :
    parses (history ++ [moment]) = parses history ++ (moment.act?.bind Act.parse?).toList := by
  rw [parses, allActs_append, List.filterMap_append, parses]
  cases moment.act? with
  | none => rfl
  | some act => cases told : act.parse? <;> simp [told]

theorem UnitCalls.earlier {moment : Moment α κ} (only : UnitCalls (history ++ [moment])) : UnitCalls history := by
  refine ⟨fun number operation begun => only.calls number operation ?_, fun act inside => only.calm act ?_⟩
  · rw [started_append]
    exact List.mem_append_left _ begun
  · rw [allActs_append]
    exact List.mem_append_left _ inside

theorem OnlyCalls.earlier {moment : Moment α κ} (only : OnlyCalls (history ++ [moment])) : OnlyCalls history := by
  have apart := only.apart
  rw [called_append] at apart
  exact ⟨only.toUnitCalls.earlier, (List.pairwise_append.mp apart).1⟩

theorem apart_symm {left right : Path} (away : (left == right) = false) : (right == left) = false := by
  rw [Bool.eq_false_iff] at away ⊢
  exact fun same => away (BEq.symm same)

theorem OnlyCalls.apart_of_started (only : OnlyCalls history) {left right : Nat × Task κ}
    (first : left ∈ started history) (second : right ∈ started history) (other : left.1 ≠ right.1)
    {request wanted : Request} (calls : left.2.call? = some request) (also : right.2.call? = some wanted) :
    (request.path == wanted.path) = false := by
  have symm : Std.Symm fun left right : Nat × Task κ => ∀ request, left.2.call? = some request →
      ∀ wanted, right.2.call? = some wanted → (request.path == wanted.path) = false :=
    ⟨fun _ _ away _ calls _ also => apart_symm (away _ also _ calls)⟩
  have apart := List.pairwise_filterMap.mp only.apart
  exact apart.forall first second (fun same => other (congrArg Prod.fst same)) _ calls _ also

/-- Calls that are made for different paths leave everything else as it was. -/
structure Warming (history : List (Moment α κ)) (system : System α κ) : Prop where
  queue : system.store.queue.jobs = []
  pending : ∀ path, system.store.pending.get? path = none
  frames : ∀ frame ∈ system.frames, ∃ request, frame.task = .operation (.getUnit request) ∧
    Undisturbed system.store request frame.activity
  fresh : ∀ path, (∀ request ∈ called history, (request.path == path) = false) → view system.store path = .blank
  owned : ∀ path, system.store.isParsing path = true →
    ∃ frame ∈ system.frames, ∃ request, frame.task = .operation (.getUnit request) ∧ (request.path == path) = true

/-- What such calls have done, and what is ahead of them. -/
structure Tally (history : List (Moment α κ)) (system : System α κ) : Prop where
  tasks : ∀ pair ∈ started history, ∃ request, pair.2 = .operation (.getUnit request)
  plain : ∀ act ∈ allActs history, ∃ request, Undisturbed act.store request act.frame.activity
  parsed : (called history).Perm ((parses history).map Prod.fst ++ system.frames.filterMap Frame.unparsed?)
  nearer : (allActs history).length + system.weigh actsAhead = 5 * (called history).length
  counted : total (Act.counts .parses) history + system.weigh parsesAhead = (called history).length

theorem Undisturbed.of_view {store next : Store α κ} {request : Request} {activity : Activity α κ}
    (undisturbed : Undisturbed store request activity)
    (same : view next request.path = view store request.path) : Undisturbed next request activity := by
  cases undisturbed with
  | looks blank => exact .looks (same.trans blank)
  | _ => constructor

theorem unparsed_of_left {left : Option (Frame α κ)} {others : List (Frame α κ)}
    (same : system.frames.Perm (left.toList ++ others)) :
    (system.frames.filterMap Frame.unparsed?).Perm
      ((left.bind Frame.unparsed?).toList ++ others.filterMap Frame.unparsed?) := by
  refine (same.filterMap _).trans ?_
  rw [List.filterMap_append]
  cases left with
  | none => rfl
  | some frame => cases waits : frame.unparsed? <;> simp [waits]

theorem warming_start (flags : ParseFlags) (capacity : Nat) (roles : List Role) :
    Warming ([] : List (Moment α κ)) (.start flags capacity roles) where
  queue := rfl
  pending _ := rfl
  frames := by simp [frames_start]
  fresh _ _ := rfl
  owned _ marked := nomatch marked

theorem tally_start (flags : ParseFlags) (capacity : Nat) (roles : List Role) :
    Tally ([] : List (Moment α κ)) (.start flags capacity roles) where
  tasks _ inside := nomatch inside
  plain _ inside := nomatch inside
  parsed := by simp [called, started, parses, allActs, frames_start]
  nearer := by simp [called, started, allActs, System.weigh, frames_start]
  counted := by
    rw [System.weigh, frames_start]
    rfl

section Steps

variable {next : System α κ} {move : Move α κ} {act : Act α κ} {left : Option (Frame α κ)} {others : List (Frame α κ)}
  {request : Request}

theorem Warming.after_act (warming : Warming history system) (run : Run flags capacity roles history system)
    (only : OnlyCalls history) (own : act.frame ∈ system.frames) (old : Moment.begins? ⟨system, move⟩ = none)
    (here : act.store = system.store) (task : act.frame.task = .operation (.getUnit request))
    (its_task : ∀ frame ∈ left, frame.task = .operation (.getUnit request)) (keeps : act.Keeps request next.store left)
    (was : system.frames.Perm (act.frame :: others)) (is : next.frames.Perm (left.toList ++ others)) :
    Warming (history ++ [⟨system, move⟩]) next := by
  have elsewhere (path : Path) (away : (request.path == path) = false) :
      view next.store path = view system.store path := here ▸ keeps.elsewhere path away
  refine ⟨by rw [keeps.queue, here, warming.queue], fun path => by rw [keeps.pending, here, warming.pending], ?_, ?_,
    ?_⟩
  · intro frame inside
    rcases left_or_beside is inside with mine | other
    · exact ⟨request, its_task frame mine, keeps.goesOn frame mine⟩
    · have there : frame ∈ system.frames := was.symm.subset (List.mem_cons_of_mem _ other)
      obtain ⟨wanted, also, waits⟩ := warming.frames frame there
      have differ : act.frame.number ≠ frame.number := fun same =>
        number_apart run.numbered.1 was (same ▸ List.mem_map_of_mem other)
      have away := only.apart_of_started (run.started.1 _ own) (run.started.1 _ there) differ
        (by rw [task]; rfl) (by rw [also]; rfl)
      exact ⟨wanted, also, waits.of_view (elsewhere wanted.path away)⟩
  · intro path away
    rw [called_append, old, Option.bind_none, Option.toList_none, List.append_nil] at away
    have began := run.started.1 _ own
    rw [task] at began
    rw [elsewhere path (away request (List.mem_filterMap.mpr ⟨_, began, rfl⟩))]
    exact warming.fresh path away
  · intro path marked
    by_cases mine : (request.path == path) = true
    · cases left with
      | none =>
        rw [Store.isParsing, ← next.store.parsing.contains_congr mine] at marked
        cases (keeps.free rfl).symm.trans marked
      | some frame => exact ⟨frame, is.symm.subset List.mem_cons_self, request, its_task frame rfl, mine⟩
    · have same := congrArg View.marked (elsewhere path (by simpa using mine))
      obtain ⟨frame, inside, wanted, also, there⟩ := warming.owned path (same.symm.trans marked)
      refine ⟨frame, stays_beside was is inside ?_, wanted, also, there⟩
      rintro rfl
      cases task.symm.trans also
      exact mine there

theorem Tally.after_act (tally : Tally history system) (told : Moment.act? ⟨system, move⟩ = some act)
    (old : Moment.begins? ⟨system, move⟩ = none)
    (undisturbed : Undisturbed act.store request act.frame.activity) (keeps : act.Keeps request next.store left)
    (was : system.frames.Perm (act.frame :: others)) (is : next.frames.Perm (left.toList ++ others)) :
    Tally (history ++ [⟨system, move⟩]) next := by
  have same_called : called (history ++ [⟨system, move⟩]) = called history := by simp [called_append, old]
  have more_acts : allActs (history ++ [⟨system, move⟩]) = allActs history ++ [act] := by simp [allActs_append, told]
  have was_mine : system.frames.Perm ((some act.frame).toList ++ others) := was
  have before (weight : Activity α κ → Nat) : system.weigh weight = weight act.frame.activity + _ :=
    weigh_of_left was_mine weight
  have behind (weight : Activity α κ → Nat) : next.weigh weight = leftWeighs left weight + _ := weigh_of_left is weight
  refine ⟨by simpa [started_append, old] using tally.tasks, ?_, ?_, ?_, ?_⟩
  · intro other inside
    rw [more_acts] at inside
    rcases List.mem_append.mp inside with earlier | now
    · exact tally.plain other earlier
    · rw [List.mem_singleton.mp now]
      exact ⟨request, undisturbed⟩
  · rw [same_called, parses_append, told, Option.bind_some, List.map_append, List.append_assoc]
    refine tally.parsed.trans (List.Perm.append_left _ ?_)
    have asked : act.parse?.toList.map Prod.fst = (act.parse?.map Prod.fst).toList := by cases act.parse? <;> rfl
    have mine := unparsed_of_left was_mine
    rw [Option.bind_some, keeps.parses, List.append_assoc, ← asked] at mine
    exact mine.trans ((unparsed_of_left is).symm.append_left _)
  · have nearer := tally.nearer
    have nearer_now := keeps.nearer
    rw [before] at nearer
    rw [same_called, more_acts, List.length_append, List.length_singleton, behind]
    omega
  · have counted := tally.counted
    have counted_now := keeps.counted
    rw [before] at counted
    rw [same_called, total_append_act _ history told, behind]
    omega

/-- What begins while the paths are as before joins the others, which find what they would have found. -/
theorem Warming.joined (warming : Warming history system) (new : Option (Frame α κ)) {moment : Moment α κ}
    (still : next.store.queue.jobs = [] ∧ ∀ path, view next.store path = view system.store path)
    (is : next.frames.Perm (new.toList ++ system.frames))
    (begun : ∀ frame ∈ new, ∃ request, frame.task = .operation (.getUnit request) ∧
      Undisturbed next.store request frame.activity) : Warming (history ++ [moment]) next := by
  refine ⟨still.1, fun path => (congrArg View.pending (still.2 path)).trans (warming.pending path), ?_, ?_, ?_⟩
  · intro frame inside
    rcases left_or_beside is inside with mine | earlier
    · exact begun frame mine
    · obtain ⟨wanted, task, undisturbed⟩ := warming.frames frame earlier
      exact ⟨wanted, task, undisturbed.of_view (still.2 _)⟩
  · intro path away
    rw [called_append] at away
    exact (still.2 path).trans (warming.fresh path fun other inside => away other (List.mem_append_left _ inside))
  · intro path marked
    obtain ⟨frame, inside, rest⟩ := warming.owned path ((congrArg View.marked (still.2 path)).symm.trans marked)
    exact ⟨frame, is.symm.subset (List.mem_append_right _ inside), rest⟩

theorem Warming.after_call (warming : Warming history system) (only : OnlyCalls (history ++ [⟨system, move⟩]))
    (still : next.store.queue.jobs = [] ∧ ∀ path, view next.store path = view system.store path)
    (told : Moment.begins? ⟨system, move⟩ = some (system.clock, .operation (.getUnit request)))
    (is : next.frames.Perm (⟨system.clock, .operation (.getUnit request), .lookUp request⟩ :: system.frames)) :
    Warming (history ++ [⟨system, move⟩]) next := by
  have apart := only.apart
  rw [called_append, told, Option.bind_some, List.pairwise_append] at apart
  have blank : view system.store request.path = .blank :=
    warming.fresh _ fun other inside => apart.2.2 other inside request (List.mem_singleton.mpr rfl)
  refine warming.joined (some ⟨system.clock, .operation (.getUnit request), .lookUp request⟩) still is ?_
  rintro frame ⟨⟩
  exact ⟨request, rfl, .looks ((still.2 _).trans blank)⟩

theorem Tally.after_call (tally : Tally history system) (idle : Moment.act? ⟨system, move⟩ = none)
    (told : Moment.begins? ⟨system, move⟩ = some (system.clock, .operation (.getUnit request)))
    (is : next.frames.Perm (⟨system.clock, .operation (.getUnit request), .lookUp request⟩ :: system.frames)) :
    Tally (history ++ [⟨system, move⟩]) next := by
  have more_called : called (history ++ [⟨system, move⟩]) = called history ++ [request] := by
    rw [called_append, told]
    rfl
  have same_acts : allActs (history ++ [⟨system, move⟩]) = allActs history := by simp [allActs_append, idle]
  have mine : next.frames.Perm
      ((some ⟨system.clock, .operation (.getUnit request), .lookUp request⟩ : Option (Frame α κ)).toList ++
        system.frames) := is
  refine ⟨?_, by rw [same_acts]; exact tally.plain, ?_, ?_, ?_⟩
  · intro pair inside
    rw [started_append, told] at inside
    rcases List.mem_append.mp inside with earlier | now
    · exact tally.tasks pair earlier
    · rw [List.mem_singleton.mp now]
      exact ⟨request, rfl⟩
  · rw [more_called, parses_append, idle, Option.bind_none, Option.toList_none, List.append_nil]
    refine (tally.parsed.append_right _).trans ?_
    rw [List.append_assoc]
    refine List.Perm.append_left _ (List.perm_append_comm.trans ?_)
    exact (unparsed_of_left mine).symm
  · have nearer := tally.nearer
    rw [same_acts, more_called, List.length_append, weigh_of_left mine]
    change _ + (5 + system.weigh actsAhead) = 5 * (_ + 1)
    omega
  · have counted := tally.counted
    rw [total_append_idle _ history idle, more_called, List.length_append, weigh_of_left mine]
    change _ + (1 + system.weigh parsesAhead) = _ + 1
    omega

theorem Tally.after_rest (tally : Tally history system) (idle : Moment.act? ⟨system, move⟩ = none)
    (old : Moment.begins? ⟨system, move⟩ = none) (is : next.frames.Perm system.frames) :
    Tally (history ++ [⟨system, move⟩]) next := by
  have same_called : called (history ++ [⟨system, move⟩]) = called history := by simp [called_append, old]
  have same_acts : allActs (history ++ [⟨system, move⟩]) = allActs history := by simp [allActs_append, idle]
  refine ⟨by simpa [started_append, old] using tally.tasks, by rw [same_acts]; exact tally.plain, ?_, ?_, ?_⟩
  · rw [same_called, parses_append, idle, Option.bind_none, Option.toList_none, List.append_nil]
    exact tally.parsed.trans ((is.filterMap _).symm.append_left _)
  · rw [same_acts, same_called, weigh_of_perm is]
    exact tally.nearer
  · rw [total_append_idle _ history idle, same_called, weigh_of_perm is]
    exact tally.counted

end Steps

theorem Run.warming (run : Run flags capacity roles history system) (untimed : Role.ticker ∉ roles)
    (only : OnlyCalls history) : Warming history system ∧ Tally history system := by
  induction run with
  | start => exact ⟨warming_start flags capacity roles, tally_start flags capacity roles⟩
  | @move history system next move run made ih =>
    obtain ⟨warming, tally⟩ := ih only.earlier
    cases progress_of_move made with
    | acts act turn left others told old here turned went was is =>
      have own := act_inside told
      obtain ⟨request, task, undisturbed⟩ := warming.frames act.frame own
      rw [← here] at undisturbed
      have calm : act.choice ≠ .parsed .panic := only.calm act (by simp [allActs_append, told])
      have keeps := keeps_of_act undisturbed (by rw [here]; exact warming.pending request.path) calm turned went
      have its_task : ∀ frame ∈ left, frame.task = .operation (.getUnit request) := by
        rintro frame ⟨⟩
        rw [(after?_same went).2, task]
      exact ⟨warming.after_act run only.earlier own old here task its_task keeps was is,
        tally.after_act told old undisturbed keeps was is⟩
    | rests idle old is =>
      have still := view_of_idle made idle warming.queue
      exact ⟨warming.joined none still is (by simp), tally.after_rest idle old is⟩
    | begins task activity idle told first is _ taken leaves =>
      cases first with
      | operation operation =>
        have begun : (system.clock, .operation operation) ∈ Interleaving.started (history ++ [⟨system, move⟩]) := by
          simp [started_append, told]
        obtain ⟨request, rfl⟩ := only.calls _ _ begun
        exact ⟨warming.after_call only (view_of_idle made idle warming.queue) told is,
          tally.after_call idle told is⟩
      | job job =>
        rw [Moment.Leaves, taken] at leaves
        cases warming.queue.symm.trans leaves
      | tick =>
        have there := role_of_tick made told
        rw [run.same_roles] at there
        exact absurd there untimed

end Runs

end UnitCache.Interleaving
