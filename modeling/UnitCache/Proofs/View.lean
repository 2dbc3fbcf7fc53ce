import UnitCache.Proofs.PathMap
import UnitCache.Proofs.Standing

namespace UnitCache.Interleaving

variable {α κ : Type}

theorem view_congr (store : Store α κ) {left right : Path} (same : (left == right) = true) :
    view store left = view store right := by
  simp only [view, Store.peek, Store.isParsing, store.units.get?_congr same, store.parsing.contains_congr same,
    store.pending.get?_congr same]

theorem mark_eq (store : Store α κ) (path : Path) : ∃ parsing, store.mark path = { store with parsing } := by
  unfold Store.mark
  split <;> exact ⟨_, rfl⟩

theorem settle_eq (store : Store α κ) (path : Path) :
    ∃ parsing pending, (store.settle path).2 = { store with parsing, pending } := by
  unfold Store.settle
  cases store.pending.get? path with
  | none => exact ⟨_, _, rfl⟩
  | some request =>
    dsimp only
    split <;> exact ⟨_, _, rfl⟩

theorem evictIfCurrent_cases (store : Store α κ) (handle : Handle) :
    (∃ current, store.peek handle.request.path = some current ∧ (current.number == handle.number) = true ∧
      store.evictIfCurrent handle = store.evict handle.request.path) ∨
    ((store.peek handle.request.path).any (fun current => current.number == handle.number) = false ∧
      store.evictIfCurrent handle = store) := by
  unfold Store.evictIfCurrent
  cases found : store.peek handle.request.path with
  | none => exact .inr ⟨rfl, rfl⟩
  | some current =>
    by_cases same : (current.number == handle.number) = true
    · exact .inl ⟨current, rfl, same, if_pos same⟩
    · exact .inr ⟨Bool.eq_false_iff.mpr same, if_neg same⟩

theorem queue_mark (store : Store α κ) (path : Path) : (store.mark path).queue = store.queue := by
  obtain ⟨_, same⟩ := mark_eq store path
  rw [same]

theorem queue_settle (store : Store α κ) (path : Path) : (store.settle path).2.queue = store.queue := by
  obtain ⟨_, _, same⟩ := settle_eq store path
  rw [same]

theorem view_mark (store : Store α κ) (path other : Path) :
    view (store.mark path) other =
      if path == other then { view store other with marked := true } else view store other := by
  unfold Store.mark
  split
  next marked =>
    by_cases same : (path == other) = true
    · have known : store.isParsing other = true := (store.parsing.contains_congr same).symm.trans marked
      simp [view, same, known]
    · simp [same]
  next =>
    by_cases same : (path == other) = true <;>
      simp [view, Store.peek, Store.isParsing, PathMap.contains_insert, same]

theorem view_record (store : Store α κ) (request : Request) (other : Path) :
    view (store.record request) other =
      if request.path == other then { view store other with pending := some request } else view store other := by
  by_cases same : (request.path == other) = true <;>
    simp [view, Store.record, Store.peek, Store.isParsing, PathMap.get?_insert, same]

theorem view_release (store : Store α κ) (path other : Path) :
    view (store.release path) other =
      if path == other then { view store other with marked := false, pending := none } else view store other := by
  by_cases same : (path == other) = true <;>
    simp [view, Store.release, Store.peek, Store.isParsing, PathMap.get?_erase, PathMap.contains_erase, same]

theorem view_evict (store : Store α κ) (path other : Path) :
    view (store.evict path) other =
      if path == other then { view store other with entry := none } else view store other := by
  by_cases same : (path == other) = true <;>
    simp [view, Store.evict, Store.peek, Store.isParsing, PathMap.get?_erase, same]

theorem view_keep (store : Store α κ) (request : Request) (artifact : α) (other : Path) :
    view (store.keep request artifact).2 other =
      if request.path == other then { view store other with entry := some (store.keep request artifact).1 }
      else view store other := by
  by_cases same : (request.path == other) = true <;>
    simp [view, Store.keep, Store.peek, Store.isParsing, PathMap.get?_insert, same]

theorem view_settle_apart (store : Store α κ) (path other : Path) (apart : (path == other) = false) :
    view (store.settle path).2 other = view store other := by
  unfold Store.settle
  cases put : store.pending.get? path with
  | none => simp [view, Store.peek, Store.isParsing, PathMap.contains_erase, apart]
  | some request =>
    dsimp only
    split <;> simp [view, Store.peek, Store.isParsing, PathMap.get?_erase, PathMap.contains_erase, apart]

theorem lookUp_cases (store : Store α κ) (request : Request) :
    (∃ handle, store.peek request.path = some handle ∧ handle.request.serves request = true ∧
      store.lookUp request = (.hit handle, store)) ∨
    (∃ handle, store.peek request.path = some handle ∧ handle.request.serves request = false ∧
      store.lookUp request = (.stale handle, store.evict request.path)) ∨
    (store.peek request.path = none ∧ store.isParsing request.path = true ∧
      store.lookUp request = (.busy, store.record request)) ∨
    (store.peek request.path = none ∧ store.isParsing request.path = false ∧
      store.lookUp request = (.first, store.mark request.path)) := by
  unfold Store.lookUp
  cases found : store.peek request.path with
  | none => cases marked : store.isParsing request.path <;> simp
  | some handle => cases serves : handle.request.serves request <;> simp [serves]

theorem takeStock_cases (store : Store α κ) (request : Request) :
    (∃ handle, store.peek request.path = some handle ∧ handle.request.serves request = true ∧
      store.takeStock request = (.served handle, store)) ∨
    (∃ handle, store.peek request.path = some handle ∧ handle.request.serves request = false ∧
      store.takeStock request = (.replaced, store.evict request.path)) ∨
    (store.peek request.path = none ∧ store.takeStock request = (.absent, store)) := by
  unfold Store.takeStock
  cases found : store.peek request.path with
  | none => simp
  | some handle => cases serves : handle.request.serves request <;> simp [serves]

theorem admitParse_cases (store : Store α κ) (request : Request) :
    (∃ handle, store.peek request.path = some handle ∧ store.admitParse request = (false, store)) ∨
    (store.peek request.path = none ∧ store.isParsing request.path = true ∧
      store.admitParse request = (false, store.record request)) ∨
    (store.peek request.path = none ∧ store.isParsing request.path = false ∧
      store.admitParse request = (true, store.mark request.path)) := by
  unfold Store.admitParse
  rw [PathMap.contains_eq_isSome, ← Store.peek]
  cases found : store.peek request.path with
  | none => cases marked : store.isParsing request.path <;> simp
  | some handle => simp

theorem admitReparse_cases (store : Store α κ) (path : Path) :
    ((store.peek path = none ∨ store.isParsing path = true) ∧ store.admitReparse path = (false, store)) ∨
    ((store.peek path).isSome = true ∧ store.isParsing path = false ∧
      store.admitReparse path = (true, store.mark path)) := by
  unfold Store.admitReparse
  rw [PathMap.contains_eq_isSome, ← Store.peek]
  cases found : store.peek path <;> cases marked : store.isParsing path <;> simp

theorem enqueue_cases (store : Store α κ) (background : Bool) (job : Job κ) :
    (store.enqueue background job =
      (.accepted, { store with queue := { store.queue with jobs := store.queue.jobs ++ [job] } })) ∨
    store.enqueue background job = (.full, store) ∨ store.enqueue background job = (.closed, store) ∨
    store.enqueue background job = (.waits, store) := by
  unfold Store.enqueue
  dsimp only
  split
  next => simp
  next =>
    split
    next => simp
    next => cases background <;> simp

/-- A request put down that the unit at its path does not serve is given to the owner of the mark. -/
theorem settle_stale (store : Store α κ) (path : Path) (request : Request)
    (given : (store.settle path).1 = some request) :
    (view store path).pending = some request ∧
      (∀ handle, (view store path).entry = some handle → handle.request.serves request = false) ∧
      view (store.settle path).2 path = { view store path with pending := none } := by
  unfold Store.settle at given ⊢
  cases put : store.pending.get? path with
  | none => simp [put] at given
  | some other =>
    simp only [put] at given ⊢
    split at given
    next => cases given
    next stale =>
      cases given
      refine ⟨put, ?_, ?_⟩
      · intro handle found
        have entry : store.units.get? path = some handle := found
        simpa [Store.peek, entry] using stale
      · rw [if_neg stale]
        simp [view, Store.peek, Store.isParsing, PathMap.get?_erase]

theorem settle_served (store : Store α κ) (path : Path) (kept : (store.settle path).1 = none) :
    (∀ request, (view store path).pending = some request →
      ∃ handle, (view store path).entry = some handle ∧ handle.request.serves request = true) ∧
      view (store.settle path).2 path = { view store path with marked := false, pending := none } := by
  unfold Store.settle at kept ⊢
  cases put : store.pending.get? path with
  | none => simp [view, put, Store.peek, Store.isParsing, PathMap.contains_erase]
  | some other =>
    simp only [put] at kept ⊢
    split at kept
    next served =>
      obtain ⟨handle, found, fits⟩ := (Option.any_eq_true _ _).mp served
      have entry : store.units.get? path = some handle := found
      rw [if_pos served]
      simp [view, put, entry, fits, Store.peek, Store.isParsing, PathMap.contains_erase, PathMap.get?_erase]
    next => cases kept

end UnitCache.Interleaving
