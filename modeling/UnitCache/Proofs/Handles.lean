import UnitCache.Proofs.Acts
import UnitCache.Proofs.Cells
/-!
Which units are in the cache. A unit comes into it once, when it is made, and once it is out it does not come back; so
no two clients take the same unit out because it was built otherwise than they want it.
-/
namespace UnitCache.Interleaving

variable {α κ : Type}

/-- The unit that a client takes out since it was built otherwise, and the frame that takes it. -/
def Act.takesOut? (act : Act α κ) : Option (Nat × Nat) :=
  match act.frame.activity with
  | .lookUp request =>
    match (act.store.lookUp request).1 with
    | .stale handle => some (handle.number, act.frame.number)
    | _ => none
  | _ => none

def takenOut (history : List (Moment α κ)) : List (Nat × Nat) := (allActs history).filterMap Act.takesOut?

/-- Each unit in the cache was made, and not taken out by a client; its number tells it from all others; and no client
takes a unit out that another one has. -/
structure EntersOnce (history : List (Moment α κ)) (store : Store α κ) : Prop where
  made : ∀ path handle, store.peek path = some handle → handle.number < store.cells.length
  apart : ∀ path other handle twin, store.peek path = some handle → store.peek other = some twin →
    handle.number = twin.number → handle = twin
  there : ∀ path handle, store.peek path = some handle → ∀ pair ∈ takenOut history, pair.1 ≠ handle.number
  gone : ∀ pair ∈ takenOut history, pair.1 < store.cells.length
  once : ((takenOut history).map Prod.fst).Nodup

section Acts

variable {system next : System α κ} {move : Move α κ}

theorem takenOut_append_idle (history : List (Moment α κ)) {moment : Moment α κ}
    (idle : moment.act?.bind Act.takesOut? = none) : takenOut (history ++ [moment]) = takenOut history := by
  rw [takenOut, allActs, List.filterMap_append, List.filterMap_append, takenOut, allActs]
  cases told : moment.act? with
  | none => simp [told]
  | some act =>
    rw [told, Option.bind_some] at idle
    simp [told, idle]

theorem takesOut?_eq_some {act : Act α κ} {turn : Turn α κ} {left : Option (Frame α κ)} {store : Store α κ}
    {pair : Nat × Nat} (takes : act.takesOut? = some pair) (turned : act.turn? = some turn)
    (made : act.frame.after? turn = some (store, left)) :
    ∃ request handle, act.frame.activity = .lookUp request ∧ act.store.peek request.path = some handle ∧
      pair = (handle.number, act.frame.number) ∧ store = act.store.evict request.path := by
  obtain ⟨background, before, ⟨number, task, activity⟩, choice⟩ := act
  cases activity <;> try cases takes
  case lookUp request =>
  cases choice with
  | proceed =>
    cases turned
    simp only [Act.takesOut?] at takes
    rcases lookUp_cases before request with ⟨handle, _, _, looked⟩ | ⟨handle, found, _, looked⟩ | ⟨_, _, looked⟩ |
      ⟨_, _, looked⟩ <;> simp only [looked] at takes <;> cases takes
    simp only [Activity.step, looked] at made
    cases made
    exact ⟨request, handle, rfl, found, rfl, rfl⟩
  | _ => cases turned

end Acts

section Stores

variable {history later : List (Moment α κ)} {store next : Store α κ}

/-- No unit comes in with a number that another one has or had. -/
theorem EntersOnce.keeps {activity : Activity α κ} (enters : EntersOnce history store)
    (change : Change store next activity) (same : takenOut later = takenOut history) : EntersOnce later next := by
  obtain ⟨made, apart, there, gone, once⟩ := enters
  rw [← same] at there gone once
  refine ⟨change.made made, change.apart made apart, fun path handle found pair inside => ?_, fun pair inside => ?_, once⟩
  · rcases change.origin found with before | ⟨_, _, _, _, _, rfl⟩
    · exact there path handle before pair inside
    · exact Nat.ne_of_lt (gone pair inside)
  · exact Nat.lt_of_lt_of_le (gone pair inside) change.length

theorem peek_evict {path other : Path} {handle : Handle} (found : (store.evict path).peek other = some handle) :
    store.peek other = some handle ∧ (path == other) = false := by
  have held : (view (store.evict path) other).entry = some handle := found
  rw [view_evict] at held
  cases same : path == other with
  | true => simp [same] at held
  | false =>
    rw [same, if_neg Bool.false_ne_true] at held
    exact ⟨held, rfl⟩

theorem EntersOnce.evict {path : Path} {dropped : Handle} {frame : Nat} (enters : EntersOnce history store)
    (keyed : Keyed store) (was : store.peek path = some dropped)
    (more : takenOut later = takenOut history ++ [(dropped.number, frame)]) : EntersOnce later (store.evict path) := by
  obtain ⟨made, apart, there, gone, once⟩ := enters
  refine ⟨fun other handle found => made other handle (peek_evict found).1, fun left right handle twin found also =>
    apart left right handle twin (peek_evict found).1 (peek_evict also).1, fun other handle found pair inside => ?_,
    fun pair inside => ?_, ?_⟩
  · obtain ⟨before, elsewhere⟩ := peek_evict found
    rw [more] at inside
    rcases List.mem_append.mp inside with inside | inside
    · exact there other handle before pair inside
    · rw [List.mem_singleton.mp inside]
      intro same
      have twin := apart _ _ _ _ was before same
      have at_path := keyed.units _ _ before
      rw [← twin] at at_path
      have clash : (path == other) = true := BEq.trans (BEq.symm (keyed.units _ _ was)) at_path
      rw [elsewhere] at clash
      cases clash
  · rw [more] at inside
    rcases List.mem_append.mp inside with inside | inside
    · exact gone pair inside
    · rw [List.mem_singleton.mp inside]
      exact made _ _ was
  · rw [more, List.map_append, List.nodup_append]
    refine ⟨once, List.nodup_singleton _, ?_⟩
    rintro number earlier _ own rfl
    obtain ⟨pair, inside, rfl⟩ := List.mem_map.mp earlier
    rw [List.map_singleton, List.mem_singleton] at own
    exact there _ _ was pair inside own

end Stores

section Acts

variable {history : List (Moment α κ)} {system next : System α κ} {move : Move α κ}

theorem EntersOnce.step {act : Act α κ} {turn : Turn α κ} {left : Option (Frame α κ)}
    (enters : EntersOnce history system.store) (keyed : Keyed system.store)
    (told : Moment.act? ⟨system, move⟩ = some act) (turned : act.turn? = some turn)
    (made : act.frame.after? turn = some (next.store, left)) : EntersOnce (history ++ [⟨system, move⟩]) next.store := by
  have here := act_store told
  cases takes : act.takesOut? with
  | none =>
    have change := change_of_turn turned made
    rw [here] at change
    exact enters.keeps change (takenOut_append_idle history (by rw [told, Option.bind_some, takes]))
  | some pair =>
    obtain ⟨request, dropped, _, was, rfl, left_behind⟩ := takesOut?_eq_some takes turned made
    rw [here] at was left_behind
    rw [left_behind]
    have more : takenOut (history ++ [⟨system, move⟩]) = takenOut history ++ [(dropped.number, act.frame.number)] := by
      simp [takenOut, allActs, told, takes]
    exact enters.evict keyed was more

end Acts

section Runs

variable {flags : ParseFlags} {capacity : Nat} {roles : List Role} {history : List (Moment α κ)} {system : System α κ}

theorem Run.entersOnce (run : Run flags capacity roles history system) : EntersOnce history system.store := by
  induction run with
  | start =>
    refine ⟨?_, ?_, ?_, ?_, List.nodup_nil⟩
    · intro _ _ found
      cases found
    · intro _ _ _ _ found
      cases found
    · intro _ _ found
      cases found
    · intro _ inside
      cases inside
  | @move history system next move run made ih =>
    cases progress_of_move made with
    | acts act turn left others told old here turned went was is =>
      exact ih.step run.sound.1.keyed told turned went
    | begins _ _ idle _ _ _ same | rests idle _ _ same =>
      have units (path : Path) : next.store.peek path = system.store.peek path := by
        rw [Store.peek, same.units, Store.peek]
      have nothing : takenOut (history ++ [⟨system, move⟩]) = takenOut history :=
        takenOut_append_idle history (by rw [idle]; rfl)
      obtain ⟨was_made, apart, there, gone, once⟩ := ih
      refine ⟨?_, ?_, ?_, ?_, ?_⟩
      · simpa only [units, same.made] using was_made
      · simpa only [units] using apart
      · simpa only [units, nothing] using there
      · simpa only [nothing, same.made] using gone
      · rwa [nothing]

/-- No two clients take the same unit out. -/
theorem Run.taken_once (run : Run flags capacity roles history system) {number frame other : Nat}
    (first : (number, frame) ∈ takenOut history) (second : (number, other) ∈ takenOut history) : frame = other :=
  congrArg Prod.snd (List.inj_on_of_nodup_map run.entersOnce.once first second rfl)

end Runs

end UnitCache.Interleaving
