import UnitCache.Proofs.Pauses
/-!
What going on leaves of a store. A turn keeps its books, or it takes one unit out, or makes one, or takes one into use
that is free, or gives the one in use free again. So no unit that was made is ever forgotten.
-/
namespace UnitCache.Interleaving

variable {α κ : Type}

/-- What an activity leaves of the store that it sees. -/
inductive Change (store : Store α κ) : Store α κ → Activity α κ → Prop where
  | still {activity : Activity α κ} (parsing : PathSet) (pending : PathMap Request) (queue : Queue κ)
      (counters : Counters) (idle : ∀ handle use, activity = .using handle use → use = .hold) :
      Change store { store with parsing, pending, queue, counters } activity
  | evicts {activity : Activity α κ} (path : Path) (handle : Handle) (found : store.peek path = some handle)
      (idle : ∀ handle use, activity = .using handle use → use = .hold) : Change store (store.evict path) activity
  | keeps (request : Request) (artifact : α) (owner : Owner κ) :
      Change store (store.keep request artifact).2 (.keep request artifact owner)
  | locks (handle : Handle) (use : Use κ) (free : store.isLocked handle.number = false) :
      Change store (store.lock handle.number) (.acquire handle use)
  | unlocks (handle : Handle) (use : Use κ) : Change store (store.unlock handle.number) (.using handle use)
  | replaces (handle : Handle) (use : Use κ) (artifact : α) :
      Change store ((store.unlock handle.number).replaceArtifact handle.number artifact) (.using handle use)

section Turns

variable {background : Bool} {store next : Store α κ} {frame : Frame α κ} {left : Option (Frame α κ)}

theorem change_of_turn {choice : Choice α κ} {turn : Turn α κ}
    (chosen : turn? background store frame.activity choice = some turn)
    (made : frame.after? turn = some (next, left)) : Change store next frame.activity := by
  generalize frame.activity = activity at chosen
  cases rule_of_turn chosen with
  | keep request artifact owner =>
    obtain rfl := PassesOn.of_afterBuild.same made
    exact .keeps request artifact owner
  | stale request handle found | replaced request _ handle found =>
    cases made
    exact .evicts request.path handle found (by rintro _ _ ⟨⟩)
  | evict handle =>
    obtain rfl := PassesOn.of_afterRefresh.same made
    rcases evictIfCurrent_cases store handle with ⟨current, found, _, gone⟩ | ⟨_, stays⟩
    · rw [gone]
      exact .evicts _ current found (by rintro _ _ ⟨⟩)
    · rw [stays]
      exact .still _ _ _ _ (by rintro _ _ ⟨⟩)
  | hold handle free =>
    cases made
    exact .locks handle .hold free
  | acquire handle use free =>
    cases made
    exact .locks handle use free
  | refreshDone handle _ _ artifact | reparseDone handle _ artifact =>
    cases made
    exact .replaces handle _ artifact
  | refreshPanicked handle =>
    obtain rfl := PassesOn.of_afterPanic.same made
    exact .unlocks handle _
  | refreshFailed handle | reparseFailed handle | reparsePanicked handle | queryDone handle | queryFailed handle
  | queryPanicked handle | completeDone handle | completeFailed handle | completePanicked handle =>
    cases made
    exact .unlocks handle _
  | held handle =>
    cases made
    exact .still _ _ _ _ (by rintro _ _ ⟨⟩; rfl)
  | present _ giving | record _ giving | spare _ giving | accepted _ giving | withdraw _ giving =>
    obtain rfl := (PassesOn.of_give giving _).same made
    exact .still _ _ _ _ (by rintro _ _ ⟨⟩)
  | served | noteFailure =>
    obtain rfl := PassesOn.of_afterBuild.same made
    exact .still _ _ _ _ (by rintro _ _ ⟨⟩)
  | findNothing | noteReparse =>
    obtain rfl := PassesOn.of_afterRefresh.same made
    exact .still _ _ _ _ (by rintro _ _ ⟨⟩)
  | settleAlone =>
    obtain rfl := PassesOn.of_finish.same made
    exact .still _ _ _ _ (by rintro _ _ ⟨⟩)
  | settle _ _ path =>
    obtain rfl := PassesOn.of_finish.same made
    obtain ⟨parsing, pending, same⟩ := settle_eq store path
    rw [same]
    exact .still _ _ _ _ (by rintro _ _ ⟨⟩)
  | takeOver _ _ path =>
    obtain rfl := PassesOn.of_takeOver.same made
    obtain ⟨parsing, pending, same⟩ := settle_eq store path
    rw [same]
    exact .still _ _ _ _ (by rintro _ _ ⟨⟩)
  | parsePanicked =>
    obtain rfl := PassesOn.of_afterPanic.same made
    exact .still _ _ _ _ (by rintro _ _ ⟨⟩)
  | first request =>
    cases made
    obtain ⟨parsing, same⟩ := mark_eq store request.path
    rw [same]
    exact .still _ _ _ _ (by rintro _ _ ⟨⟩)
  | parse job | reparse job =>
    cases made
    obtain ⟨parsing, same⟩ := mark_eq store job.request.path
    rw [same]
    exact .still _ _ _ _ (by rintro _ _ ⟨⟩)
  | askParse | askUse | call | awaitRoom | awaitUnit => cases made
  | _ =>
    cases made
    exact .still _ _ _ _ (by rintro _ _ ⟨⟩)

end Turns

section Units

variable {store next : Store α κ} {activity : Activity α κ}

theorem Change.length (change : Change store next activity) : store.cells.length ≤ next.cells.length := by
  cases change with
  | still | evicts => exact Nat.le_refl _
  | keeps =>
    rw [Store.keep, List.length_append]
    exact Nat.le_add_right ..
  | locks | unlocks => exact Nat.le_of_eq (List.length_modify ..).symm
  | replaces => exact Nat.le_of_eq ((List.length_modify ..).trans (List.length_modify ..)).symm

/-- The unit at a path stays or goes, unless a new one is made and put there. -/
theorem Change.entry (change : Change store next activity) (path : Path) :
    next.peek path = store.peek path ∨ next.peek path = none ∨ ∃ request artifact owner,
      activity = .keep request artifact owner ∧ next.peek path = some ⟨store.cells.length, request⟩ ∧
        store.cells.length < next.cells.length := by
  cases change with
  | still | locks | unlocks | replaces => exact .inl rfl
  | evicts gone =>
    have held : (store.evict gone).peek path = _ := congrArg View.entry (view_evict store gone path)
    rw [held]
    split
    next => exact .inr (.inl rfl)
    next => exact .inl rfl
  | keeps request artifact owner =>
    have held : (store.keep request artifact).2.peek path = _ :=
      congrArg View.entry (view_keep store request artifact path)
    rw [held]
    split
    next => exact .inr (.inr ⟨request, artifact, owner, rfl, rfl, by simp [Store.keep]⟩)
    next => exact .inl rfl

theorem Change.origin (change : Change store next activity) {path : Path} {handle : Handle}
    (found : next.peek path = some handle) :
    store.peek path = some handle ∨ store.cells.length < next.cells.length ∧ ∃ request artifact owner,
      activity = .keep request artifact owner ∧ handle = ⟨store.cells.length, request⟩ := by
  rcases change.entry path with same | gone | ⟨request, artifact, owner, keeps, come, more⟩
  · exact .inl (same.symm.trans found)
  · cases found.symm.trans gone
  · cases found.symm.trans come
    exact .inr ⟨more, request, artifact, owner, keeps, rfl⟩

theorem Change.made (change : Change store next activity)
    (made : ∀ path handle, store.peek path = some handle → handle.number < store.cells.length) (path : Path)
    (handle : Handle) (found : next.peek path = some handle) : handle.number < next.cells.length := by
  rcases change.origin found with before | ⟨more, _, _, _, _, rfl⟩
  · exact Nat.lt_of_lt_of_le (made path handle before) change.length
  · exact more

theorem Change.apart (change : Change store next activity)
    (made : ∀ path handle, store.peek path = some handle → handle.number < store.cells.length)
    (apart : ∀ path other handle twin, store.peek path = some handle → store.peek other = some twin →
      handle.number = twin.number → handle = twin)
    (path other : Path) (handle twin : Handle) (found : next.peek path = some handle)
    (also : next.peek other = some twin) (same : handle.number = twin.number) : handle = twin := by
  rcases change.origin found with before | ⟨_, request, _, _, keeps, rfl⟩ <;>
    rcases change.origin also with earlier | ⟨_, wanted, _, _, keeps_too, rfl⟩
  · exact apart path other handle twin before earlier same
  · exact absurd same (Nat.ne_of_lt (made path handle before))
  · exact absurd same.symm (Nat.ne_of_lt (made other twin earlier))
  · cases keeps.symm.trans keeps_too
    rfl

end Units

section Locks

variable (store : Store α κ) (number other : Nat)

theorem isLocked_lock (locked : (store.lock number).isLocked other = true) :
    store.isLocked other = true ∨ other = number := by
  by_cases same : number = other
  · exact .inr same.symm
  · refine .inl ?_
    simpa [Store.isLocked, Store.lock, Store.modifyCell, List.getElem?_modify, same] using locked

theorem isLocked_unlock (locked : (store.unlock number).isLocked other = true) :
    store.isLocked other = true ∧ other ≠ number := by
  by_cases same : number = other
  · subst same
    cases found : store.cells[number]? <;>
      simp [Store.isLocked, Store.unlock, Store.modifyCell, found] at locked
  · refine ⟨?_, fun equal => same equal.symm⟩
    simpa [Store.isLocked, Store.unlock, Store.modifyCell, List.getElem?_modify, same] using locked

theorem isLocked_replaceArtifact (artifact : α) :
    (store.replaceArtifact number artifact).isLocked other = store.isLocked other := by
  by_cases same : number = other
  · subst same
    cases found : store.cells[number]? <;> simp [Store.isLocked, Store.replaceArtifact, Store.modifyCell, found]
  · simp [Store.isLocked, Store.replaceArtifact, Store.modifyCell, same]

end Locks

/-- A unit is in use behind a turn only if it was before, and not by the frame itself, or if the frame has taken it. -/
theorem Change.isLocked {store next : Store α κ} {activity : Activity α κ} (change : Change store next activity)
    {number : Nat} (locked : next.isLocked number = true) :
    (store.isLocked number = true ∧
      ∀ handle use, activity = .using handle use → use ≠ .hold → handle.number ≠ number) ∨
      ∃ handle use, activity = .acquire handle use ∧ handle.number = number := by
  cases change with
  | still _ _ _ _ idle | evicts _ _ _ idle =>
    exact .inl ⟨locked, fun handle use activity used => absurd (idle handle use activity) used⟩
  | keeps request artifact owner =>
    refine .inl ⟨?_, by rintro _ _ ⟨⟩⟩
    rw [Store.isLocked, Store.keep, List.getElem?_append] at locked
    split at locked
    next => exact locked
    next =>
      cases place : number - store.cells.length <;> simp [place] at locked
  | locks handle use free =>
    rcases isLocked_lock store _ _ locked with before | here
    · exact .inl ⟨before, by rintro _ _ ⟨⟩⟩
    · exact .inr ⟨handle, use, rfl, here.symm⟩
  | unlocks handle use =>
    obtain ⟨before, apart⟩ := isLocked_unlock store _ _ locked
    refine .inl ⟨before, ?_⟩
    rintro _ _ ⟨⟩ _ equal
    exact apart equal.symm
  | replaces handle use artifact =>
    rw [isLocked_replaceArtifact] at locked
    obtain ⟨before, apart⟩ := isLocked_unlock store _ _ locked
    refine .inl ⟨before, ?_⟩
    rintro _ _ ⟨⟩ _ equal
    exact apart equal.symm

end UnitCache.Interleaving
