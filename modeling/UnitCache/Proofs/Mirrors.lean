import Mathlib.Data.Nat.Count
import UnitCache.Proofs.Parts
/-!
A cache that knows of one path only. It holds for this path what a cache that knows of many holds for it, and has the
units of this path alone, so that they are numbered otherwise. Whatever is done to the path is done there too, and what
is done to others is not.
-/
namespace UnitCache

variable {α κ : Type} (number : Nat → Nat)

def Handle.renumber (handle : Handle) : Handle := ⟨number handle.number, handle.request⟩

def Giving.renumber : Giving → Giving
  | .unit handle => .unit (handle.map (Handle.renumber number))
  | giving => giving

def Outcome.renumber : Outcome → Outcome
  | .unit handle => .unit (handle.map (Handle.renumber number))
  | outcome => outcome

def EngineCall.renumber : EngineCall → EngineCall
  | .reparse handle flags => .reparse (handle.renumber number) flags
  | .complete handle line column flags => .complete (handle.renumber number) line column flags
  | call => call

namespace Activity

def renumber : Activity α κ → Activity α κ
  | .dropStale request stale => .dropStale request (stale.renumber number)
  | .admitParse job giving => .admitParse job (giving.renumber number)
  | .admitReparse job giving => .admitReparse job (giving.renumber number)
  | .enqueue job giving => .enqueue job (giving.renumber number)
  | .withdraw path giving => .withdraw path (giving.renumber number)
  | .settle owner built => .settle owner (built.map (Handle.renumber number))
  | .acquire handle use => .acquire (handle.renumber number) use
  | .using handle use => .using (handle.renumber number) use
  | .noteReparse handle request failure owner => .noteReparse (handle.renumber number) request failure owner
  | .noteReparseFailure handle request error owner => .noteReparseFailure (handle.renumber number) request error owner
  | .evict handle owner => .evict (handle.renumber number) owner
  | activity => activity

def giving? : Activity α κ → Option Giving
  | .admitParse _ giving | .admitReparse _ giving | .enqueue _ giving | .withdraw _ giving => some giving
  | _ => none

end Activity

def Turn.over (store : Store α κ) : Turn α κ → Turn α κ
  | .next _ activity warnings => .next store (activity.renumber number) warnings
  | .done _ outcome warnings => .done store (outcome.renumber number) warnings
  | .engine call => .engine (call.renumber number)
  | turn => turn

namespace Interleaving

def View.renumber (held : View) : View := { held with entry := held.entry.map (Handle.renumber number) }

def rank (mine : Nat → Bool) (number : Nat) : Nat := Nat.count (fun other => mine other = true) number

inductive Section (α : Type) (κ : Type) where
  | counts (change : Counters → Counters)
  | marks (path : Path)
  | records (request : Request)
  | releases (path : Path)
  | settles (path : Path)
  | evicts (path : Path)
  | keeps (request : Request) (artifact : α)
  | queues (job : Job κ)
  | locks (handle : Handle)
  | unlocks (handle : Handle)
  | replaces (handle : Handle) (artifact : α)

namespace Section

def apply (store : Store α κ) : Section α κ → Store α κ
  | counts change => store.count change
  | marks path => store.mark path
  | records request => store.record request
  | releases path => store.release path
  | settles path => (store.settle path).2
  | evicts path => store.evict path
  | keeps request artifact => (store.keep request artifact).2
  | queues job => { store with queue := { store.queue with jobs := store.queue.jobs ++ [job] } }
  | locks handle => store.lock handle.number
  | unlocks handle => store.unlock handle.number
  | replaces handle artifact => (store.unlock handle.number).replaceArtifact handle.number artifact

def path? : Section α κ → Option Path
  | counts _ => none
  | marks path | releases path | settles path | evicts path => some path
  | records request | keeps request _ => some request.path
  | queues job => some job.request.path
  | locks handle | unlocks handle | replaces handle _ => some handle.request.path

def handle? : Section α κ → Option Handle
  | locks handle | unlocks handle | replaces handle _ => some handle
  | _ => none

def job? : Section α κ → Option (Job κ)
  | queues job => some job
  | _ => none

def recell (cells : List (Cell α)) : Section α κ → List (Cell α)
  | keeps _ artifact => cells ++ [{ artifact }]
  | locks handle => cells.modify handle.number fun cell => { cell with locked := true }
  | unlocks handle => cells.modify handle.number fun cell => { cell with locked := false }
  | replaces handle artifact => (cells.modify handle.number fun cell => { cell with locked := false }).modify
      handle.number fun cell => { cell with artifact }
  | _ => cells

def renumber : Section α κ → Section α κ
  | locks handle => locks (handle.renumber number)
  | unlocks handle => unlocks (handle.renumber number)
  | replaces handle artifact => replaces (handle.renumber number) artifact
  | part => part

end Section

/-- A store that knows of one path only, beside one that knows of many. `mine` tells which units there are of this
path. -/
structure Restricts (path : Path) (mine : Nat → Bool) (store alone : Store α κ) : Prop where
  flags : alone.flags = store.flags
  views : ∀ other, view alone other =
    if path == other then (view store other).renumber (rank mine) else ⟨none, false, none⟩
  jobs : alone.queue.jobs = store.queue.jobs.filter fun job => path == job.request.path
  capacity : alone.queue.capacity = store.queue.capacity
  isOpen : alone.queue.isOpen = store.queue.isOpen
  count : alone.cells.length = rank mine store.cells.length
  cells : ∀ place, mine place = true → alone.cells[rank mine place]? = store.cells[place]?

section Ranks

variable {mine : Nat → Bool} {place other : Nat}

theorem rank_succ_of_mine (own : mine place = true) : rank mine (place + 1) = rank mine place + 1 := by
  rw [rank, Nat.count_succ, if_pos own, rank]

theorem rank_succ_of_other (apart : mine place = false) : rank mine (place + 1) = rank mine place := by
  rw [rank, Nat.count_succ, if_neg (by simp [apart]), rank]
  rfl

theorem rank_le (less : place ≤ other) : rank mine place ≤ rank mine other := Nat.count_monotone _ less

theorem rank_lt (own : mine place = true) (less : place < other) : rank mine place < rank mine other :=
  Nat.count_strict_mono own less

theorem rank_inj (own : mine place = true) (also : mine other = true) (same : rank mine place = rank mine other) :
    place = other := Nat.count_injective own also same

end Ranks

section Views

variable (store : Store α κ) (path : Path)

def View.settle (held : View) : Option Request × View :=
  match held.pending with
  | none => (none, { held with marked := false })
  | some request =>
    if held.entry.any fun handle => handle.request.serves request then
      (none, { held with marked := false, pending := none })
    else (some request, { held with pending := none })

theorem settle_view : ((store.settle path).1, view (store.settle path).2 path) = (view store path).settle := by
  unfold Store.settle View.settle
  cases put : store.pending.get? path with
  | none => simp [view, put, Store.peek, Store.isParsing, PathMap.contains_erase]
  | some request =>
    simp only [view, put]
    by_cases served : (store.peek path).any fun handle => handle.request.serves request
    · rw [if_pos served]
      have known := served
      rw [Store.peek] at known
      simp [known, Store.peek, Store.isParsing, PathMap.contains_erase, PathMap.get?_erase]
    · rw [if_neg served]
      have known := served
      rw [Store.peek] at known
      simp [known, Store.peek, Store.isParsing, PathMap.get?_erase]

theorem settle_renumber (number : Nat → Nat) (held : View) :
    (held.renumber number).settle = (held.settle.1, held.settle.2.renumber number) := by
  obtain ⟨entry, marked, pending⟩ := held
  cases pending with
  | none => rfl
  | some request =>
    cases entry with
    | none => rfl
    | some handle =>
      cases serves : handle.request.serves request <;>
        simp [View.settle, View.renumber, Handle.renumber, serves]

theorem view_apply_apart (part : Section α κ) {other : Path} (apart : ∀ own ∈ part.path?, (own == other) = false) :
    view (part.apply store) other = view store other := by
  cases part with
  | marks path | releases path | evicts path =>
    have elsewhere : (path == other) = false := apart path rfl
    simp [Section.apply, view_mark, view_release, view_evict, elsewhere]
  | settles path => exact view_settle_apart store path other (apart path rfl)
  | records request =>
    have elsewhere : (request.path == other) = false := apart _ rfl
    simp [Section.apply, view_record, elsewhere]
  | keeps request artifact =>
    have elsewhere : (request.path == other) = false := apart _ rfl
    simp [Section.apply, view_keep, elsewhere]
  | _ => rfl

end Views

section Sections

variable {path : Path} {mine : Nat → Bool} {store alone : Store α κ}

theorem Restricts.view_of_on (restricts : Restricts path mine store alone) {other : Path}
    (on : (path == other) = true) : view alone other = (view store other).renumber (rank mine) := by
  rw [restricts.views, if_pos on]

theorem Restricts.view_of_off (restricts : Restricts path mine store alone) {other : Path}
    (off : (path == other) = false) : view alone other = ⟨none, false, none⟩ := by
  rw [restricts.views, off, if_neg Bool.false_ne_true]

theorem apart_trans {own other : Path} (apart : (own == path) = false) (same : (path == other) = true) :
    (own == other) = false := by
  rw [Bool.eq_false_iff] at apart ⊢
  exact fun here => apart (BEq.trans here (BEq.symm same))

section Fields

variable (part : Section α κ) (store : Store α κ)

theorem apply_flags : (part.apply store).flags = store.flags := by
  cases part with
  | marks path =>
    obtain ⟨_, same⟩ := mark_eq store path
    simp [Section.apply, same]
  | settles path =>
    obtain ⟨_, _, same⟩ := settle_eq store path
    simp [Section.apply, same]
  | _ => rfl

theorem apply_queue :
    (part.apply store).queue = { store.queue with jobs := store.queue.jobs ++ part.job?.toList } := by
  cases part with
  | marks path =>
    obtain ⟨_, same⟩ := mark_eq store path
    simp [Section.apply, same, Section.job?]
  | settles path =>
    obtain ⟨_, _, same⟩ := settle_eq store path
    simp [Section.apply, same, Section.job?]
  | queues => rfl
  | _ =>
    simp only [Section.apply, Section.job?, Option.toList_none, List.append_nil]
    rfl

theorem apply_cells : (part.apply store).cells = part.recell store.cells := by
  cases part with
  | marks path =>
    obtain ⟨_, same⟩ := mark_eq store path
    simp [Section.apply, same, Section.recell]
  | settles path =>
    obtain ⟨_, _, same⟩ := settle_eq store path
    simp [Section.apply, same, Section.recell]
  | _ => rfl

end Fields

/-- What is done to another path, with units of its own, is not seen. -/
theorem Restricts.aside (restricts : Restricts path mine store alone) (part : Section α κ)
    (apart : ∀ own ∈ part.path?, (own == path) = false) (unit : ∀ handle ∈ part.handle?, mine handle.number = false)
    (fresh : ∀ request artifact, part = .keeps request artifact → mine store.cells.length = false) :
    Restricts path mine (part.apply store) alone := by
  obtain ⟨flags, views, jobs, capacity, isOpen, count, cells⟩ := restricts
  have seen (other : Path) : view alone other =
      if path == other then (view (part.apply store) other).renumber (rank mine) else ⟨none, false, none⟩ := by
    rw [views]
    split
    next on =>
      rw [view_apply_apart store part fun own inside => apart_trans (apart own inside) on]
    next => rfl
  refine ⟨?_, seen, ?_, ?_, ?_, ?_, ?_⟩
  · rw [apply_flags, flags]
  · have none_own : part.job?.toList.filter (fun job => path == job.request.path) = [] := by
      rw [List.filter_eq_nil_iff]
      intro job inside own
      have its_own : part = .queues job := by cases part <;> simp_all [Section.job?]
      have elsewhere := apart job.request.path (by rw [its_own]; rfl)
      rw [BEq.symm own] at elsewhere
      cases elsewhere
    rw [apply_queue, jobs, List.filter_append, none_own, List.append_nil]
  · rw [apply_queue, capacity]
  · rw [apply_queue, isOpen]
  · rw [apply_cells, count]
    cases part with
    | keeps request artifact =>
      simp only [Section.recell, List.length_append, List.length_singleton]
      exact (rank_succ_of_other (fresh request artifact rfl)).symm
    | _ => simp [Section.recell]
  · intro place own
    rw [apply_cells, cells place own]
    have other (handle : Handle) (its_own : part.handle? = some handle) : handle.number ≠ place := by
      rintro rfl
      rw [unit handle its_own] at own
      cases own
    cases part with
    | keeps request artifact =>
      have elsewhere : place ≠ store.cells.length := by
        rintro rfl
        rw [fresh request artifact rfl] at own
        cases own
      simp only [Section.recell]
      rw [List.getElem?_append]
      split
      next => rfl
      next past => rw [List.getElem?_eq_none (Nat.le_of_not_lt past), List.getElem?_eq_none (by simp; omega)]
    | locks handle | unlocks handle | replaces handle =>
      simp [Section.recell, other handle rfl]
    | _ => rfl

theorem Restricts.seen_on (restricts : Restricts path mine store alone) (part : Section α κ)
    (own : ∀ place ∈ part.path?, (place == path) = true) (other : Path) :
    view ((part.renumber (rank mine)).apply alone) other =
      if path == other then (view (part.apply store) other).renumber (rank mine) else ⟨none, false, none⟩ := by
  cases on : path == other with
  | false =>
    have renamed : ∀ place ∈ (part.renumber (rank mine)).path?, (place == other) = false := fun place inside => by
      have same : part.path? = (part.renumber (rank mine)).path? := by cases part <;> rfl
      exact apart_of_same (own place (same ▸ inside)) on
    rw [view_apply_apart alone _ renamed, restricts.view_of_off on]
    rfl
  | true =>
    have before := restricts.view_of_on on
    have here {place : Path} (inside : place ∈ part.path?) : (place == other) = true := BEq.trans (own place inside) on
    rw [if_pos rfl]
    cases part with
    | marks place | releases place | evicts place =>
      have same : (place == other) = true := here rfl
      simp [Section.renumber, Section.apply, view_mark, view_release, view_evict, same, before, View.renumber]
    | records request =>
      have same : (request.path == other) = true := here rfl
      simp [Section.renumber, Section.apply, view_record, same, before, View.renumber]
    | keeps request artifact =>
      have same : (request.path == other) = true := here rfl
      have made : (alone.keep request artifact).1 = (store.keep request artifact).1.renumber (rank mine) := by
        simp [Store.keep, Handle.renumber, restricts.count]
      simp only [Section.renumber, Section.apply, view_keep, same, if_true, before, made]
      rfl
    | settles place =>
      have same : (place == other) = true := here rfl
      have mine_settled : view (alone.settle place).2 place = (view alone place).settle.2 :=
        congrArg Prod.snd (settle_view alone place)
      have all_settled : view (store.settle place).2 place = (view store place).settle.2 :=
        congrArg Prod.snd (settle_view store place)
      simp only [Section.renumber, Section.apply]
      rw [← view_congr _ same, ← view_congr _ same, mine_settled, all_settled, view_congr alone same, before,
        settle_renumber, view_congr store same]
    | _ => exact before

theorem Restricts.on (restricts : Restricts path mine store alone) (part : Section α κ)
    (own : ∀ place ∈ part.path?, (place == path) = true) (unit : ∀ handle ∈ part.handle?, mine handle.number = true)
    (fresh : ∀ request artifact, part = .keeps request artifact → mine store.cells.length = true) :
    Restricts path mine (part.apply store) ((part.renumber (rank mine)).apply alone) := by
  have seen := restricts.seen_on part own
  obtain ⟨flags, -, jobs, capacity, isOpen, count, cells⟩ := restricts
  refine ⟨?_, seen, ?_, ?_, ?_, ?_, ?_⟩
  · rw [apply_flags, apply_flags, flags]
  · have same : (part.renumber (rank mine)).job? = part.job? := by cases part <;> rfl
    have all : part.job?.toList.filter (fun job => path == job.request.path) = part.job?.toList := by
      rw [List.filter_eq_self]
      intro job inside
      have its_own : part = .queues job := by cases part <;> simp_all [Section.job?]
      exact BEq.symm (own job.request.path (by rw [its_own]; rfl))
    rw [apply_queue, apply_queue, same, List.filter_append, all, jobs]
  · rw [apply_queue, apply_queue, capacity]
  · rw [apply_queue, apply_queue, isOpen]
  · rw [apply_cells, apply_cells]
    cases part with
    | keeps request artifact =>
      simp only [Section.renumber, Section.recell, List.length_append, List.length_singleton]
      rw [rank_succ_of_mine (fresh request artifact rfl), count]
    | _ => simp [Section.renumber, Section.recell, count]
  · intro place its_own
    rw [apply_cells, apply_cells]
    have moved (handle : Handle) (there : part.handle? = some handle) :
        rank mine handle.number = rank mine place ↔ handle.number = place :=
      ⟨rank_inj (unit handle there) its_own, congrArg _⟩
    cases part with
    | keeps request artifact =>
      simp only [Section.renumber, Section.recell]
      have new := rank_succ_of_mine (fresh request artifact rfl)
      rcases Nat.lt_trichotomy place store.cells.length with less | rfl | more
      · rw [List.getElem?_append_left less, List.getElem?_append_left (count ▸ rank_lt its_own less), cells place its_own]
      · rw [← count, List.getElem?_concat_length, List.getElem?_concat_length]
      · have past : rank mine (store.cells.length + 1) ≤ rank mine place := rank_le more
        rw [List.getElem?_eq_none (by simp; omega), List.getElem?_eq_none (by simp; omega)]
    | locks handle | unlocks handle | replaces handle =>
      simp [Section.renumber, Section.recell, Handle.renumber, List.getElem?_modify, moved handle rfl, cells place its_own]
    | _ => exact cells place its_own

end Sections

section Rules

variable {background : Bool} {store next : Store α κ} {activity : Activity α κ} {choice : Choice α κ} {turn : Turn α κ}

structure Does (activity : Activity α κ) (part : Section α κ) : Prop where
  names : ∀ place ∈ part.path?, place ∈ names activity
  handles : ∀ handle ∈ part.handle?, handle ∈ activity.handles
  keeps : ∀ request artifact, part = .keeps request artifact → ∃ owner, activity = .keep request artifact owner

theorem Does.counts (change : Counters → Counters) : Does activity (.counts change) :=
  ⟨by simp [Section.path?], by simp [Section.handle?], by simp⟩

theorem Does.at_path {part : Section α κ} {place : Path} (path : part.path? = some place)
    (named : place ∈ Interleaving.names activity) (handle : part.handle? = none)
    (keeps : ∀ request artifact, part ≠ .keeps request artifact) : Does activity part where
  names := by rw [path]; rintro _ ⟨⟩; exact named
  handles := by simp [handle]
  keeps request artifact same := absurd same (keeps request artifact)

theorem Does.at_unit {part : Section α κ} {handle : Handle} (path : part.path? = some handle.request.path)
    (named : handle.request.path ∈ Interleaving.names activity) (unit : part.handle? = some handle)
    (held : handle ∈ activity.handles) : Does activity part where
  names := by rw [path]; rintro _ ⟨⟩; exact named
  handles := by rw [unit]; rintro _ ⟨⟩; exact held
  keeps := by rintro request artifact rfl; cases unit

theorem part_of_rule (rule : Rule background store activity choice turn) (left : storeOf? turn = some next) :
    ∃ part, next = part.apply store ∧ Does activity part := by
  have nothing (same : next = store) : ∃ part, next = part.apply store ∧ Does activity part :=
    ⟨.counts id, same, .counts id⟩
  have counted (change : Counters → Counters) (same : store.count change = next) :
      ∃ part, next = part.apply store ∧ Does activity part := ⟨.counts change, same.symm, .counts change⟩
  cases rule with
  | stale request | replaced request =>
    cases left
    exact ⟨.evicts request.path, rfl, .at_path rfl List.mem_cons_self rfl (by simp)⟩
  | busy request =>
    cases left
    exact ⟨.records request, rfl, .at_path rfl List.mem_cons_self rfl (by simp)⟩
  | first request =>
    cases left
    exact ⟨.marks request.path, rfl, .at_path rfl List.mem_cons_self rfl (by simp)⟩
  | parse job | reparse job =>
    cases left
    exact ⟨.marks job.request.path, rfl, .at_path rfl List.mem_cons_self rfl (by simp)⟩
  | present job giving | spare job giving =>
    exact nothing (Option.some.inj ((PassesOn.of_give giving _).storeOf?.symm.trans left)).symm
  | record job giving =>
    cases (PassesOn.of_give giving _).storeOf?.symm.trans left
    exact ⟨.records job.request, rfl, .at_path rfl List.mem_cons_self rfl (by simp)⟩
  | accepted job giving =>
    cases (PassesOn.of_give giving _).storeOf?.symm.trans left
    exact ⟨.queues job, rfl, .at_path rfl List.mem_cons_self rfl (by simp)⟩
  | withdraw place giving =>
    cases (PassesOn.of_give giving _).storeOf?.symm.trans left
    exact ⟨.releases place, rfl, .at_path rfl List.mem_cons_self rfl (by simp)⟩
  | served => exact nothing (Option.some.inj (PassesOn.of_afterBuild.storeOf?.symm.trans left)).symm
  | findNothing => exact nothing (Option.some.inj (PassesOn.of_afterRefresh.storeOf?.symm.trans left)).symm
  | parsePanicked => exact nothing (Option.some.inj (PassesOn.of_afterPanic.storeOf?.symm.trans left)).symm
  | settleAlone => exact nothing (Option.some.inj (PassesOn.of_finish.storeOf?.symm.trans left)).symm
  | dropStale | dropReplaced | build | noteReparseFailed | noteReparseFailure => exact counted _ (Option.some.inj left)
  | noteFailure => exact counted _ (Option.some.inj (PassesOn.of_afterBuild.storeOf?.symm.trans left))
  | noteReparse => exact counted _ (Option.some.inj (PassesOn.of_afterRefresh.storeOf?.symm.trans left))
  | keep request artifact owner =>
    cases PassesOn.of_afterBuild.storeOf?.symm.trans left
    exact ⟨.keeps request artifact, rfl, by rintro _ ⟨⟩; exact List.mem_cons_self, by simp [Section.handle?],
      by rintro _ _ ⟨⟩; exact ⟨owner, rfl⟩⟩
  | settle owner built place owned =>
    cases PassesOn.of_finish.storeOf?.symm.trans left
    exact ⟨.settles place, rfl, .at_path rfl (by simp [Interleaving.names, owned]) rfl (by simp)⟩
  | takeOver owner built place request owned =>
    cases PassesOn.of_takeOver.storeOf?.symm.trans left
    exact ⟨.settles place, rfl, .at_path rfl (by simp [Interleaving.names, owned]) rfl (by simp)⟩
  | unwind place =>
    cases left
    exact ⟨.releases place, rfl, .at_path rfl List.mem_cons_self rfl (by simp)⟩
  | hold handle | acquire handle =>
    cases left
    exact ⟨.locks handle, rfl, .at_unit rfl List.mem_cons_self rfl List.mem_cons_self⟩
  | refreshDone handle _ _ artifact | reparseDone handle _ artifact =>
    cases left
    exact ⟨.replaces handle artifact, rfl, .at_unit rfl List.mem_cons_self rfl List.mem_cons_self⟩
  | refreshPanicked handle =>
    cases PassesOn.of_afterPanic.storeOf?.symm.trans left
    exact ⟨.unlocks handle, rfl, .at_unit rfl List.mem_cons_self rfl List.mem_cons_self⟩
  | refreshFailed handle | reparseFailed handle | reparsePanicked handle | queryDone handle | queryFailed handle
  | queryPanicked handle | completeDone handle | completeFailed handle | completePanicked handle =>
    cases left
    exact ⟨.unlocks handle, rfl, .at_unit rfl List.mem_cons_self rfl List.mem_cons_self⟩
  | evict handle =>
    have same := Option.some.inj (PassesOn.of_afterRefresh.storeOf?.symm.trans left)
    rcases evictIfCurrent_cases store handle with ⟨_, _, _, gone⟩ | ⟨_, stays⟩
    · exact ⟨.evicts handle.request.path, same.symm.trans gone, .at_path rfl List.mem_cons_self rfl (by simp)⟩
    · exact nothing (same.symm.trans stays)
  | _ => cases left <;> exact nothing rfl

end Rules

end Interleaving
end UnitCache
