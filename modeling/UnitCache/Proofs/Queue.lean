import UnitCache.Proofs.Acts
/-!
The jobs that wait. Each comes into the queue with an act of the thread that queues it, and leaves it for a worker, or
to be thrown away when the cache is given up; none overtakes another one.
-/
namespace UnitCache.Interleaving

variable {α κ : Type}

def Act.enters? (act : Act α κ) : Option (Job κ) :=
  match act.frame.activity with
  | .enqueue job _ =>
    match (act.store.enqueue act.background job).1 with
    | .accepted => some job
    | _ => none
  | _ => none

def entered (history : List (Moment α κ)) : List (Nat × Job κ) :=
  (allActs history).filterMap fun act => act.enters?.map (act.frame.number, ·)

/-- The jobs that left the queue, each with the number under which it is run unless it was thrown away. -/
def departed (history : List (Moment α κ)) : List (Option Nat × Job κ) := history.filterMap Moment.departs?

section Moves

variable {system next : System α κ} {move : Move α κ}

theorem entered_append_idle (history : List (Moment α κ)) {moment : Moment α κ} (idle : moment.act? = none) :
    entered (history ++ [moment]) = entered history := by
  simp [entered, allActs, idle]

theorem entered_append_act (history : List (Moment α κ)) {moment : Moment α κ} {act : Act α κ}
    (told : moment.act? = some act) :
    entered (history ++ [moment]) = entered history ++ (act.enters?.map (act.frame.number, ·)).toList := by
  cases enters : act.enters? <;> simp [entered, allActs, told, enters]

theorem departed_append (history : List (Moment α κ)) (moment : Moment α κ) :
    departed (history ++ [moment]) = departed history ++ moment.departs?.toList := by
  cases leaves : moment.departs? <;> simp [departed, leaves]

theorem departed_append_quiet (history : List (Moment α κ)) {moment : Moment α κ}
    (quiet : ∀ pair ∈ moment.departs?, pair.1 = none) :
    (∀ number job, (some number, job) ∈ departed (history ++ [moment]) ↔ (some number, job) ∈ departed history) ∧
      (departed (history ++ [moment])).filterMap Prod.fst = (departed history).filterMap Prod.fst := by
  rw [departed_append]
  cases leaves : moment.departs? with
  | none => simp
  | some pair =>
    obtain ⟨first, job⟩ := pair
    cases quiet _ leaves
    simp

theorem jobs_of_act {act : Act α κ} {turn : Turn α κ} {left : Option (Frame α κ)} {store : Store α κ}
    (keyed : Keyed act.store) (fits : Fits act.frame.activity) (turned : act.turn? = some turn)
    (made : act.frame.after? turn = some (store, left)) :
    store.queue.jobs = act.store.queue.jobs ++ act.enters?.toList := by
  by_cases queued : ∃ job giving, act.frame.activity = .enqueue job giving ∧
      (act.store.enqueue act.background job).1 = .accepted
  · obtain ⟨job, giving, activity, accepted⟩ := queued
    have enters : act.enters? = some job := by rw [Act.enters?, activity]; simp [accepted]
    rw [(queues activity accepted turned made).1, enters]
    rfl
  · have goes := goes_of_turn keyed fits turned made
      fun job giving activity accepted => queued ⟨job, giving, activity, accepted⟩
    have nothing : act.enters? = none := by
      unfold Act.enters?
      split
      next job giving activity =>
        split
        next accepted => exact absurd ⟨job, giving, activity, accepted⟩ queued
        next => rfl
      next => rfl
    rw [goes.1, nothing]
    exact (List.append_nil _).symm

end Moves

section Runs

variable {flags : ParseFlags} {capacity : Nat} {roles : List Role} {history : List (Moment α κ)} {system : System α κ}

/-- The jobs that came into the queue have left it in their order, or wait in it still. -/
theorem Run.in_turn (run : Run flags capacity roles history system) :
    (entered history).map Prod.snd = (departed history).map Prod.snd ++ system.store.queue.jobs := by
  induction run with
  | start => rfl
  | @move history system next move run made ih =>
    have stays (idle : (⟨system, move⟩ : Moment α κ).act? = none) (leaves : Moment.Leaves ⟨system, move⟩ next.store) :
        (entered (history ++ [⟨system, move⟩])).map Prod.snd =
          (departed (history ++ [⟨system, move⟩])).map Prod.snd ++ next.store.queue.jobs := by
      rw [entered_append_idle history idle, ih, departed_append, List.map_append, List.append_assoc]
      congr 1
      rw [Moment.Leaves] at leaves
      rw [leaves]
      congr 1
      cases Moment.departs? ⟨system, move⟩ <;> rfl
    cases progress_of_move made with
    | begins _ _ idle _ _ _ _ _ leaves => exact stays idle leaves
    | rests idle _ _ _ _ leaves => exact stays idle leaves
    | acts act turn left others told old here turned went was is still =>
      have queue := jobs_of_act (run.keyed_of_act told) (run.sound.1.fits _ (act_inside told)) turned went
      rw [here] at queue
      rw [entered_append_act history told, departed_append, still, List.map_append, ih, queue]
      cases act.enters? <;> simp

/-- The jobs that are run are those that have left the queue for a worker, each under a number of its own. -/
theorem Run.departed (run : Run flags capacity roles history system) :
    (∀ number job, (number, .job job) ∈ Interleaving.started history ↔
      (some number, job) ∈ Interleaving.departed history) ∧
    ((Interleaving.departed history).filterMap Prod.fst).Nodup := by
  induction run with
  | start => exact ⟨fun _ _ => by simp [Interleaving.started, Interleaving.departed], List.nodup_nil⟩
  | @move history system next move run made ih =>
    obtain ⟨same, distinct⟩ := ih
    have quiet (still : ∀ number job, (number, .job job) ∈ Interleaving.started (history ++ [⟨system, move⟩]) ↔
          (number, .job job) ∈ Interleaving.started history)
        (thrown : ∀ pair ∈ Moment.departs? ⟨system, move⟩, pair.1 = none) :
        (∀ number job, (number, .job job) ∈ Interleaving.started (history ++ [⟨system, move⟩]) ↔
          (some number, job) ∈ Interleaving.departed (history ++ [⟨system, move⟩])) ∧
        ((Interleaving.departed (history ++ [⟨system, move⟩])).filterMap Prod.fst).Nodup := by
      obtain ⟨departures, once⟩ := departed_append_quiet history thrown
      rw [once]
      exact ⟨fun number job => by rw [still, departures, same], distinct⟩
    cases progress_of_move made with
    | acts act turn left others told old here turned went was is stays =>
      refine quiet (fun number job => by simp [Interleaving.started, old]) ?_
      rw [stays]
      rintro _ ⟨⟩
    | rests idle old is _ thrown => exact quiet (fun number job => by simp [Interleaving.started, old]) thrown
    | begins task activity idle told first is _ taken =>
      have begun : Interleaving.started (history ++ [⟨system, move⟩]) =
          Interleaving.started history ++ [(system.clock, task)] := by
        simp [Interleaving.started, told]
      cases task with
      | operation | tick =>
        refine quiet (fun number job => by simp [begun]) ?_
        rw [taken]
        rintro _ ⟨⟩
      | job work =>
        have longer : Interleaving.departed (history ++ [⟨system, move⟩]) =
            Interleaving.departed history ++ [(some system.clock, work)] := by
          rw [departed_append, taken]
          rfl
        rw [longer, begun]
        refine ⟨fun number job => by simp [same], ?_⟩
        rw [List.filterMap_append, List.nodup_append]
        refine ⟨distinct, List.nodup_singleton _, ?_⟩
        rintro number earlier _ own rfl
        -- What has left before was begun before, under a smaller number.
        obtain ⟨⟨_, old⟩, inside, rfl⟩ := List.mem_filterMap.mp earlier
        have past := run.started.2.1 _ ((same _ _).mpr inside)
        rw [List.mem_singleton.mp own] at past
        exact Nat.lt_irrefl _ past

theorem Run.queue (run : Run flags capacity roles history system) :
    system.store.queue.capacity = capacity ∧ (system.stopping = false → system.store.queue.isOpen = true) := by
  induction run with
  | start => exact ⟨rfl, fun _ => rfl⟩
  | @move history system next move run made ih =>
    rcases move?_cases made with ⟨index, choice, thread, later, rfl, found, acted, threads, still⟩ |
      ⟨_, store, _, stopped⟩ | ⟨_, _, taken, _, _, stopped⟩ | ⟨rfl, store, _, _⟩
    · have alike : next.store.queue.capacity = system.store.queue.capacity ∧
          next.store.queue.isOpen = system.store.queue.isOpen := by
        rcases act?_cases acted with ⟨_, _, store, _⟩ | ⟨_, _, store, _⟩ | ⟨_, _, taken, _⟩ | ⟨_, store, _⟩ | goes
        · rw [store]
          exact ⟨rfl, rfl⟩
        · rw [store]
          exact ⟨rfl, rfl⟩
        · rw [(dequeue_eq taken).2]
          exact ⟨rfl, rfl⟩
        · rw [store]
          exact ⟨rfl, rfl⟩
        · obtain ⟨frame, rest, turn, left, stack, chosen, went, _⟩ := goes
          have inside : frame ∈ system.frames :=
            List.mem_flatMap.mpr ⟨thread, List.mem_of_getElem? found, by rw [stack]; exact List.mem_cons_self⟩
          rcases queue_of_turn run.sound.1.keyed (run.sound.1.fits frame inside) chosen went with
            queue | ⟨_, _, _, _, queue⟩ <;> rw [queue] <;> exact ⟨rfl, rfl⟩
      rw [alike.1, alike.2, still]
      exact ih
    · rw [store, stopped]
      exact ⟨ih.1, by rintro ⟨⟩⟩
    · rw [(dequeue_eq taken).2, stopped]
      exact ⟨ih.1, by rintro ⟨⟩⟩
    · simp only [System.move?, Option.ite_none_right_eq_some, Option.some.injEq] at made
      obtain ⟨stopping, rfl⟩ := made
      refine ⟨ih.1, fun alive => ?_⟩
      rw [stopping] at alive
      cases alive

end Runs

end UnitCache.Interleaving
