import Mathlib.Algebra.GroupWithZero.Nat
import Mathlib.Data.Nat.ModEq
import UnitCache.Proofs.Acts
import UnitCache.Proofs.Calls
import UnitCache.Proofs.Cells
/-!
What the counters of the cache add up to. A parse is counted before the engine is asked, and what becomes of it only
later, so while something is in progress a parse, a failure or a reparse can be still to be accounted for. Each act
keeps the balance with what the frames owe.

How often something was counted in a run is a natural number, and the balance is an equation of such numbers. The
counters show them modulo 2^64.
-/
namespace UnitCache

inductive Counter where
  | parses
  | reparses
  | invalidations
  | failures

def Counters.get (counters : Counters) : Counter → UInt64
  | .parses => counters.parses
  | .reparses => counters.reparses
  | .invalidations => counters.invalidations
  | .failures => counters.failures

namespace Interleaving

variable {α κ : Type}

def Act.parseFailed (act : Act α κ) : Bool :=
  match act.choice with
  | .parsed (.error _) => true
  | _ => false

def Act.parsePanicked (act : Act α κ) : Bool :=
  match act.choice with
  | .parsed .panic => true
  | _ => false

def Act.refreshFailed (act : Act α κ) : Bool :=
  match act.choice, act.frame.activity with
  | .reparsed (.error _), .using _ (.refresh ..) => true
  | _, _ => false

def Act.refreshReturned (act : Act α κ) : Bool :=
  match act.choice, act.frame.activity with
  | .reparsed (.ok _), .using _ (.refresh ..) | .reparsed (.error _), .using _ (.refresh ..) => true
  | _, _ => false

def Act.evicts (act : Act α κ) : Bool :=
  match act.frame.activity with
  | .evict handle _ => (act.store.peek handle.request.path).any fun current => current.number == handle.number
  | _ => false

def Act.counts (counter : Counter) (act : Act α κ) : Bool :=
  match act.frame.activity, counter with
  | .build .., .parses | .noteReparse .., .reparses | .dropStale .., .invalidations | .dropReplaced .., .invalidations
  | .noteFailure .., .failures | .noteReparseFailure .., .failures => true
  | _, _ => false

def total (kind : Act α κ → Bool) (history : List (Moment α κ)) : Nat := (allActs history).countP kind

/-- What is not accounted for yet. -/
structure Dues where
  /-- A parse is counted, and it is not seen yet what came of it; or what came of it is out of the cache, and this is
  not counted. -/
  parses : Nat := 0
  failures : Nat := 0
  reparses : Nat := 0
  spoilt : Nat := 0

def dues : Activity α κ → Dues
  | .dropStale .. | .dropReplaced .. | .parsing .. | .keep .. => { parses := 1 }
  | .noteFailure .. => { failures := 1 }
  | .noteReparse _ _ none _ => { reparses := 1 }
  | .noteReparse _ _ (some _) _ => { failures := 1, reparses := 1, spoilt := 1 }
  | .noteReparseFailure .. => { failures := 1, spoilt := 1 }
  | .evict .. => { spoilt := 1 }
  | _ => {}

def leftDues (left : Option (Frame α κ)) : Dues := left.elim {} fun frame => dues frame.activity

/-- An act that leaves a store and dues behind, and keeps the balance. -/
structure Balances (act : Act α κ) (next : Store α κ) (left : Dues) : Prop where
  distinct : next.units.Distinct
  counters : ∀ counter, next.counters.get counter = act.store.counters.get counter + .ofNat (act.counts counter).toNat
  parses : act.store.units.size + (act.counts .parses).toNat + (dues act.frame.activity).parses =
    next.units.size + (act.counts .invalidations).toNat + left.parses + act.evicts.toNat + act.parseFailed.toNat +
      act.parsePanicked.toNat
  failures : (act.counts .failures).toNat + left.failures =
    (dues act.frame.activity).failures + act.parseFailed.toNat + act.refreshFailed.toNat
  reparses : (act.counts .reparses).toNat + left.reparses =
    (dues act.frame.activity).reparses + act.refreshReturned.toNat
  evictions : act.evicts.toNat + left.spoilt ≤ (dues act.frame.activity).spoilt + act.refreshFailed.toNat

theorem PassesOn.square {store next : Store α κ} {turn : Turn α κ} {frame : Frame α κ} {left : Option (Frame α κ)}
    (passes : PassesOn store turn) (made : frame.after? turn = some (next, left)) :
    next = store ∧ leftDues left = {} := by
  cases passes <;> cases made <;> exact ⟨rfl, rfl⟩

section Acts

variable {background : Bool} {store next : Store α κ} {number : Nat} {task : Task κ} {activity : Activity α κ}
  {left : Option (Frame α κ)}

theorem counters_mark (store : Store α κ) (path : Path) :
    (store.mark path).units = store.units ∧ (store.mark path).counters = store.counters := by
  obtain ⟨_, same⟩ := mark_eq store path
  rw [same]
  exact ⟨rfl, rfl⟩

theorem counters_settle (store : Store α κ) (path : Path) :
    (store.settle path).2.units = store.units ∧ (store.settle path).2.counters = store.counters := by
  obtain ⟨_, _, same⟩ := settle_eq store path
  rw [same]
  exact ⟨rfl, rfl⟩

theorem counts_nothing {act : Act α κ} {counter : Counter} (uncounted : act.counts counter = false)
    (same : next.counters = act.store.counters) :
    next.counters.get counter = act.store.counters.get counter + .ofNat (act.counts counter).toNat := by
  rw [uncounted, same]
  exact (UInt64.add_zero _).symm

theorem Balances.idle (distinct : store.units.Distinct)
    (same : next.units = store.units ∧ next.counters = store.counters) (before : dues activity = {})
    (evicts : Act.evicts ⟨background, store, (⟨number, task, activity⟩ : Frame α κ), .proceed⟩ = false)
    (uncounted : ∀ counter, Act.counts counter ⟨background, store, ⟨number, task, activity⟩, .proceed⟩ = false)
    (behind : leftDues left = {}) :
    Balances ⟨background, store, ⟨number, task, activity⟩, .proceed⟩ next (leftDues left) := by
  rw [behind]
  refine ⟨by rwa [same.1], fun counter => counts_nothing (uncounted counter) same.2, ?_, ?_, ?_, ?_⟩
  · simp only [uncounted, same.1, before, evicts, Act.parseFailed, Act.parsePanicked, Bool.toNat_false]
  · simp only [uncounted, before, Act.parseFailed, Act.refreshFailed, Bool.toNat_false]
  · simp only [uncounted, before, Act.refreshReturned, Bool.toNat_false]
  · simp only [before, evicts, Act.refreshFailed, Bool.toNat_false, Nat.le_refl]

/-- A unit that is taken out is owed for until this is counted. -/
theorem Balances.evict {path : Path} {handle : Handle} (distinct : store.units.Distinct)
    (found : store.peek path = some handle) (before : dues activity = {})
    (evicts : Act.evicts ⟨background, store, (⟨number, task, activity⟩ : Frame α κ), .proceed⟩ = false)
    (uncounted : ∀ counter, Act.counts counter ⟨background, store, ⟨number, task, activity⟩, .proceed⟩ = false) :
    Balances ⟨background, store, ⟨number, task, activity⟩, .proceed⟩ (store.evict path) { parses := 1 } := by
  have fewer : (store.evict path).units.size + 1 = store.units.size := PathMap.size_erase distinct found
  refine ⟨PathMap.distinct_erase distinct _, fun counter => counts_nothing (uncounted counter) rfl, ?_, ?_, ?_, ?_⟩
  · simp only [uncounted, before, evicts, Act.parseFailed, Act.parsePanicked, Bool.toNat_false, Store.evict] at fewer ⊢
    omega
  · simp only [uncounted, before, Act.parseFailed, Act.refreshFailed, Bool.toNat_false]
  · simp only [uncounted, before, Act.refreshReturned, Bool.toNat_false]
  · simp only [before, evicts, Act.refreshFailed, Bool.toNat_false, Nat.le_refl]

theorem Balances.evictIfCurrent {handle : Handle} {owner : Owner κ} (distinct : store.units.Distinct) :
    Balances ⟨background, store, ⟨number, task, .evict handle owner⟩, .proceed⟩ (store.evictIfCurrent handle) {} := by
  have told : Act.evicts ⟨background, store, (⟨number, task, .evict handle owner⟩ : Frame α κ), .proceed⟩ =
      (store.peek handle.request.path).any fun current => current.number == handle.number := rfl
  rcases evictIfCurrent_cases store handle with ⟨current, found, same, gone⟩ | ⟨apart, stays⟩
  · have fewer : (store.evict handle.request.path).units.size + 1 = store.units.size :=
      PathMap.size_erase distinct found
    rw [found, Option.any_some, same] at told
    rw [gone]
    refine ⟨PathMap.distinct_erase distinct _, fun counter => counts_nothing rfl rfl, ?_, rfl, rfl,
      by rw [told]; exact Nat.le_refl _⟩
    rw [told]
    exact fewer.symm
  · rw [apart] at told
    rw [stays]
    exact ⟨distinct, fun counter => counts_nothing rfl rfl, by rw [told]; rfl, rfl, rfl,
      by rw [told]; exact Nat.zero_le _⟩

/-- Where a unit is put into the cache, there is none. -/
def Vacant (store : Store α κ) (activity : Activity α κ) : Prop :=
  ∀ request artifact owner, activity = .keep request artifact owner → store.peek request.path = none

/-- Every act keeps the balance. -/
theorem balances_of_act {act : Act α κ} {turn : Turn α κ} (distinct : act.store.units.Distinct)
    (vacant : Vacant act.store act.frame.activity) (turned : act.turn? = some turn)
    (made : act.frame.after? turn = some (next, left)) : Balances act next (leftDues left) := by
  obtain ⟨background, store, ⟨number, task, activity⟩, choice⟩ := act
  have rule : Rule background store activity choice turn := rule_of_turn turned
  cases rule with
  | stale _ _ found | replaced _ _ _ found =>
    cases made
    exact .evict distinct found rfl rfl fun _ => rfl
  | evict handle =>
    obtain ⟨rfl, behind⟩ := PassesOn.of_afterRefresh.square made
    rw [behind]
    exact .evictIfCurrent distinct
  | keep request artifact owner =>
    obtain ⟨rfl, behind⟩ := PassesOn.of_afterBuild.square made
    have more : (store.units.insert request.path ⟨store.cells.length, request⟩).size = store.units.size + 1 :=
      PathMap.size_insert (vacant _ _ _ rfl) _
    rw [behind]
    exact ⟨PathMap.distinct_insert distinct _ _, fun counter => counts_nothing rfl rfl, more.symm, rfl, rfl,
      Nat.le_refl _⟩
  | dropStale | dropReplaced | build | noteReparseFailed | noteReparseFailure =>
    cases made
    refine ⟨distinct, fun counter => ?_, rfl, rfl, rfl, Nat.le_refl _⟩
    cases counter <;> first | rfl | exact (UInt64.add_zero _).symm
  | noteFailure =>
    obtain ⟨rfl, behind⟩ := PassesOn.of_afterBuild.square made
    rw [behind]
    refine ⟨distinct, fun counter => ?_, rfl, rfl, rfl, Nat.le_refl _⟩
    cases counter <;> first | rfl | exact (UInt64.add_zero _).symm
  | noteReparse =>
    obtain ⟨rfl, behind⟩ := PassesOn.of_afterRefresh.square made
    rw [behind]
    refine ⟨distinct, fun counter => ?_, rfl, rfl, rfl, Nat.le_refl _⟩
    cases counter <;> first | rfl | exact (UInt64.add_zero _).symm
  | parsePanicked | refreshPanicked =>
    obtain ⟨rfl, behind⟩ := PassesOn.of_afterPanic.square made
    rw [behind]
    exact ⟨distinct, fun counter => counts_nothing rfl rfl, rfl, rfl, rfl, Nat.le_refl _⟩
  | present _ giving | record _ giving | spare _ giving | accepted _ giving | withdraw _ giving =>
    obtain ⟨rfl, behind⟩ := (PassesOn.of_give giving _).square made
    exact .idle distinct ⟨rfl, rfl⟩ rfl rfl (fun _ => rfl) behind
  | served =>
    obtain ⟨rfl, behind⟩ := PassesOn.of_afterBuild.square made
    exact .idle distinct ⟨rfl, rfl⟩ rfl rfl (fun _ => rfl) behind
  | findNothing =>
    obtain ⟨rfl, behind⟩ := PassesOn.of_afterRefresh.square made
    exact .idle distinct ⟨rfl, rfl⟩ rfl rfl (fun _ => rfl) behind
  | settleAlone =>
    obtain ⟨rfl, behind⟩ := PassesOn.of_finish.square made
    exact .idle distinct ⟨rfl, rfl⟩ rfl rfl (fun _ => rfl) behind
  | settle _ _ path =>
    obtain ⟨rfl, behind⟩ := PassesOn.of_finish.square made
    exact .idle distinct (counters_settle store path) rfl rfl (fun _ => rfl) behind
  | takeOver _ _ path =>
    obtain ⟨rfl, behind⟩ := PassesOn.of_takeOver.square made
    exact .idle distinct (counters_settle store path) rfl rfl (fun _ => rfl) behind
  | first request =>
    cases made
    exact .idle distinct (counters_mark store request.path) rfl rfl (fun _ => rfl) rfl
  | parse job | reparse job =>
    cases made
    exact .idle distinct (counters_mark store job.request.path) rfl rfl (fun _ => rfl) rfl
  | askParse | askUse | call | awaitRoom | awaitUnit => cases made
  | _ =>
    cases made
    exact ⟨distinct, fun counter => counts_nothing rfl rfl, rfl, rfl, rfl, Nat.le_refl _⟩

end Acts

def System.weigh (system : System α κ) (weight : Activity α κ → Nat) : Nat :=
  (system.frames.map fun frame => weight frame.activity).sum

def leftWeighs (left : Option (Frame α κ)) (weight : Activity α κ → Nat) : Nat :=
  left.elim 0 fun frame => weight frame.activity

def System.owes (system : System α κ) (kind : Dues → Nat) : Nat :=
  (system.frames.map fun frame => kind (dues frame.activity)).sum

/-- What was counted in a run, but for what is still to be accounted for. -/
structure Balanced (history : List (Moment α κ)) (system : System α κ) : Prop where
  distinct : system.store.units.Distinct
  counters : ∀ counter, system.store.counters.get counter = .ofNat (total (Act.counts counter) history)
  parses : total (Act.counts .parses) history = system.store.units.size +
    total (Act.counts .invalidations) history + total Act.evicts history + total Act.parseFailed history +
    total Act.parsePanicked history + system.owes Dues.parses
  failures : total (Act.counts .failures) history + system.owes Dues.failures =
    total Act.parseFailed history + total Act.refreshFailed history
  reparses : total (Act.counts .reparses) history + system.owes Dues.reparses = total Act.refreshReturned history
  evictions : total Act.evicts history + system.owes Dues.spoilt ≤ total Act.refreshFailed history

section Moves

variable {system next : System α κ} {move : Move α κ}

theorem total_append_act (kind : Act α κ → Bool) (history : List (Moment α κ)) {moment : Moment α κ} {act : Act α κ}
    (told : moment.act? = some act) : total kind (history ++ [moment]) = total kind history + (kind act).toNat := by
  rw [total, allActs, List.filterMap_append, List.countP_append, total, allActs]
  cases yes : kind act <;> simp [told, yes]

theorem total_append_idle (kind : Act α κ → Bool) (history : List (Moment α κ)) {moment : Moment α κ}
    (idle : moment.act? = none) : total kind (history ++ [moment]) = total kind history := by
  simp [total, allActs, idle]

theorem weigh_of_perm {frames : List (Frame α κ)} (same : system.frames.Perm frames) (weight : Activity α κ → Nat) :
    system.weigh weight = (frames.map fun frame => weight frame.activity).sum := (same.map _).sum_nat

theorem weigh_of_left {left : Option (Frame α κ)} {others : List (Frame α κ)}
    (same : system.frames.Perm (left.toList ++ others)) (weight : Activity α κ → Nat) :
    system.weigh weight = leftWeighs left weight + (others.map fun frame => weight frame.activity).sum := by
  rw [weigh_of_perm same]
  cases left with
  | none => simp [leftWeighs]
  | some frame => rfl

theorem weigh_of_idle (idle : system.frames = []) (weight : Activity α κ → Nat) : system.weigh weight = 0 := by
  rw [System.weigh, idle]
  rfl

theorem owes_eq_weigh (kind : Dues → Nat) : system.owes kind = system.weigh fun activity => kind (dues activity) := rfl

theorem owes_of_perm {frames : List (Frame α κ)} (same : system.frames.Perm frames) (kind : Dues → Nat) :
    system.owes kind = (frames.map fun frame => kind (dues frame.activity)).sum := by
  rw [owes_eq_weigh, weigh_of_perm same]

theorem owes_of_left {left : Option (Frame α κ)} {others : List (Frame α κ)}
    (same : system.frames.Perm (left.toList ++ others)) (kind : Dues → Nat) (nothing : kind {} = 0) :
    system.owes kind = kind (leftDues left) + (others.map fun frame => kind (dues frame.activity)).sum := by
  rw [owes_eq_weigh, weigh_of_left same]
  cases left with
  | none => simp [leftDues, leftWeighs, nothing]
  | some frame => rfl

theorem owes_of_idle (idle : system.frames = []) (kind : Dues → Nat) : system.owes kind = 0 := by
  rw [owes_eq_weigh, weigh_of_idle idle]

theorem dues_of_begins {task : Task κ} {activity : Activity α κ} (first : Begins task activity) :
    dues activity = {} := by
  cases first with
  | operation operation => cases operation <;> rfl
  | job job => cases kind : job.kind <;> simp only [Activity.ofJob, kind] <;> rfl
  | tick => rfl

theorem Balanced.of_untouched {history later : List (Moment α κ)} (balanced : Balanced history system)
    (same : Untouched system.store next.store) (idle : ∀ kind, total kind later = total kind history)
    (owed : ∀ kind : Dues → Nat, kind {} = 0 → next.owes kind = system.owes kind) : Balanced later next := by
  obtain ⟨distinct, counters, parses, failures, reparses, evictions⟩ := balanced
  refine ⟨by rwa [same.units], fun counter => ?_, ?_, ?_, ?_, ?_⟩
  · rw [same.counters, idle, counters]
  · rw [same.units, idle, idle, idle, idle, idle, owed _ rfl]
    exact parses
  · rw [idle, idle, idle, owed _ rfl]
    exact failures
  · rw [idle, idle, owed _ rfl]
    exact reparses
  · rw [idle, idle, owed _ rfl]
    exact evictions

theorem Balanced.step {history : List (Moment α κ)} (balanced : Balanced history system)
    (vacant : ∀ frame ∈ system.frames, Vacant system.store frame.activity) (progress : Progress system move next) :
    Balanced (history ++ [⟨system, move⟩]) next := by
  cases progress with
  | acts act turn left others told old here turned made was is =>
    obtain ⟨distinct, counters, parses, failures, reparses, evictions⟩ := balanced
    have keeps : Balances act next.store (leftDues left) :=
      balances_of_act (by rwa [here]) (by rw [here]; exact vacant _ (act_inside told)) turned made
    have before (kind : Dues → Nat) : system.owes kind =
        kind (dues act.frame.activity) + (others.map fun frame => kind (dues frame.activity)).sum :=
      owes_of_perm was kind
    have added (kind : Act α κ → Bool) := total_append_act kind history told
    obtain ⟨stays, its_counters, its_parses, its_failures, its_reparses, its_evictions⟩ := keeps
    rw [here] at its_parses
    rw [before] at parses failures reparses evictions
    refine ⟨stays, fun counter => ?_, ?_, ?_, ?_, ?_⟩
    · rw [its_counters, here, counters, added, UInt64.ofNat_add]
    · rw [added, added, added, added, added, owes_of_left is _ rfl]
      omega
    · rw [added, added, added, owes_of_left is _ rfl]
      omega
    · rw [added, added, owes_of_left is _ rfl]
      omega
    · rw [added, added, owes_of_left is _ rfl]
      omega
  | begins task activity idle told first is same =>
    refine balanced.of_untouched same (fun kind => total_append_idle kind history idle) fun kind nothing => ?_
    rw [owes_of_perm is, List.map_cons, List.sum_cons, dues_of_begins first, nothing, Nat.zero_add]
    rfl
  | rests idle old is same =>
    exact balanced.of_untouched same (fun kind => total_append_idle kind history idle)
      fun kind _ => owes_of_perm is kind

end Moves

section Runs

variable {flags : ParseFlags} {capacity : Nat} {roles : List Role} {history : List (Moment α κ)} {system : System α κ}

theorem Run.vacant (run : Run flags capacity roles history system) :
    ∀ frame ∈ system.frames, Vacant system.store frame.activity := by
  intro frame inside request artifact owner activity
  obtain ⟨path, owned, same⟩ := run.sound.1.fits frame inside owner [request.path] (by rw [activity]; rfl)
  have stake : frame.stake? = some (path, .building request frame.number) := by simp [Frame.stake?, activity, owned]
  exact run.clear inside stake (same _ (List.mem_singleton.mpr rfl))

theorem Run.balanced (run : Run flags capacity roles history system) : Balanced history system := by
  induction run with
  | start =>
    have nothing (kind : Dues → Nat) : (System.start flags capacity roles : System α κ).owes kind = 0 := by
      rw [System.owes, frames_start]
      rfl
    refine ⟨List.Pairwise.nil, fun counter => by cases counter <;> rfl, ?_, ?_, ?_, ?_⟩ <;> rw [nothing] <;> rfl
  | move run made ih => exact ih.step run.vacant (progress_of_move made)

theorem Run.shown (run : Run flags capacity roles history system) (counter : Counter) :
    (system.store.counters.get counter : Nat) ≡ total (Act.counts counter) history [MOD 2 ^ 64] := by
  rw [run.balanced.counters, UInt64.toNat_ofNat']
  exact Nat.mod_modEq _ _

/-- When nothing is in progress, each parse that was counted has become a unit that is still there, or one that was
replaced or taken out after it could not be built anew, or it has failed or panicked; and the failures and the units
built anew are those that the engine has reported. -/
theorem Run.balanced_at_rest (run : Run flags capacity roles history system) (idle : system.frames = []) :
    total (Act.counts .parses) history = system.store.units.size + total (Act.counts .invalidations) history +
      total Act.evicts history + total Act.parseFailed history + total Act.parsePanicked history ∧
    total (Act.counts .failures) history = total Act.parseFailed history + total Act.refreshFailed history ∧
    total (Act.counts .reparses) history = total Act.refreshReturned history ∧
    (total Act.refreshFailed history = 0 → total Act.evicts history = 0) := by
  have nothing (kind : Dues → Nat) : system.owes kind = 0 := owes_of_idle idle kind
  obtain ⟨_, _, parses, failures, reparses, evictions⟩ := run.balanced
  rw [nothing] at parses failures reparses evictions
  exact ⟨parses, failures, reparses, fun sound => by omega⟩

/-- When nothing is in progress, the numbers that describe the cache balance modulo 2^64: parses against units, replaced
and spoilt ones, failures and panics; failures and reparses against what the engine has reported. -/
theorem counters_balance (run : Run flags capacity roles history system) (idle : system.frames = []) :
    system.store.stats.parses ≡ system.store.stats.units + system.store.stats.invalidations +
      total Act.evicts history + total Act.parseFailed history + total Act.parsePanicked history [MOD 2 ^ 64] ∧
    system.store.stats.failures ≡ total Act.parseFailed history + total Act.refreshFailed history [MOD 2 ^ 64] ∧
    system.store.stats.reparses ≡ total Act.refreshReturned history [MOD 2 ^ 64] ∧
    (total Act.refreshFailed history = 0 → total Act.parsePanicked history = 0 →
      system.store.stats.parses ≡
        system.store.stats.units + system.store.stats.invalidations + system.store.stats.failures [MOD 2 ^ 64]) := by
  obtain ⟨parses, failures, reparses, evictions⟩ := run.balanced_at_rest idle
  have parses_shown := run.shown .parses
  have failures_shown := run.shown .failures
  have reparses_shown := run.shown .reparses
  rw [parses] at parses_shown
  rw [failures] at failures_shown
  rw [reparses] at reparses_shown
  have balance : system.store.stats.parses ≡ system.store.stats.units + system.store.stats.invalidations +
      total Act.evicts history + total Act.parseFailed history + total Act.parsePanicked history [MOD 2 ^ 64] := by
    refine parses_shown.trans ?_
    gcongr
    · rfl
    · exact (run.shown .invalidations).symm
  refine ⟨balance, failures_shown, reparses_shown, fun sound calm => ?_⟩
  rw [evictions sound, calm, Nat.add_zero, Nat.add_zero] at balance
  rw [sound, Nat.add_zero] at failures_shown
  exact balance.trans (failures_shown.symm.add_left _)

end Runs

/-- A unit is built and replaced, which fails; another one is built, and cannot be built anew. -/
def spoiltTwice : List (Move Unit Unit) :=
  [.thread 0 (.call (.getUnit ⟨⟨"a.c"⟩, ["-O2"], none⟩)), .thread 0 .proceed, .thread 0 .proceed,
    .thread 0 (.parsed (.ok ())), .thread 0 .proceed, .thread 0 .proceed,
    .thread 0 (.call (.getUnit ⟨⟨"a.c"⟩, ["-O3"], none⟩)), .thread 0 .proceed, .thread 0 .proceed, .thread 0 .proceed,
    .thread 0 .proceed,
    .thread 1 .take, .thread 1 .proceed, .thread 1 .proceed, .thread 1 (.parsed (.error .unsavedFile)),
    .thread 1 .proceed, .thread 1 .proceed,
    .thread 0 (.call (.getUnit ⟨⟨"b.c"⟩, [], none⟩)), .thread 0 .proceed, .thread 0 .proceed,
    .thread 0 (.parsed (.ok ())), .thread 0 .proceed, .thread 0 .proceed,
    .thread 0 (.call (.addReparse { request := ⟨⟨"b.c"⟩, [], none⟩ })), .thread 0 .proceed, .thread 0 .proceed,
    .thread 1 .take, .thread 1 .proceed, .thread 1 .proceed, .thread 1 (.reparsed (.error .unsavedFile)),
    .thread 1 .proceed, .thread 1 .proceed, .thread 1 .proceed, .thread 1 .proceed]

theorem counters_balance_when_spoilt :
    ∃ (history : List (Moment Unit Unit)) (system : System Unit Unit),
      Run ⟨0⟩ 1 [.client, .worker] history system ∧ system.frames = [] ∧ system.store.stats.parses = 3 ∧
      total Act.evicts history = 1 ∧
      system.store.stats.parses ≡ system.store.stats.units + system.store.stats.invalidations +
        total Act.evicts history + total Act.parseFailed history + total Act.parsePanicked history [MOD 2 ^ 64] ∧
      system.store.stats.failures ≡ total Act.parseFailed history + total Act.refreshFailed history [MOD 2 ^ 64] ∧
      system.store.stats.reparses ≡ total Act.refreshReturned history [MOD 2 ^ 64] ∧
      (total Act.refreshFailed history = 0 → total Act.parsePanicked history = 0 →
        system.store.stats.parses ≡
          system.store.stats.units + system.store.stats.invalidations + system.store.stats.failures [MOD 2 ^ 64]) := by
  obtain ⟨history, system, run, checked⟩ := Run.of_follow ⟨0⟩ 1 [.client, .worker] spoiltTwice
    (fun history system => system.frames.isEmpty && (system.store.stats.parses == 3 && total Act.evicts history == 1))
    (by decide)
  simp only [Bool.and_eq_true, List.isEmpty_iff, beq_iff_eq] at checked
  obtain ⟨idle, three, one⟩ := checked
  exact ⟨history, system, run, idle, three, one, counters_balance run idle⟩

end Interleaving
end UnitCache
