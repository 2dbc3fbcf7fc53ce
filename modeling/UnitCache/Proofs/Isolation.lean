import UnitCache.Proofs.MatchedMoves
/-!
Paths are kept apart. Whatever is done for one path leaves what the cache holds for all others as it is; and if all that
is done for other paths is left out of a run, what remains is a run again, of a cache that does for the path the same as
before.
-/
namespace UnitCache.Interleaving

variable {α κ : Type}

def Knows (path : Path) (mine : Nat → Bool) (history : List (Moment α κ)) : Prop :=
  ∀ number build, (builds history)[number]? = some build → mine number = (path == build.request.path)

def Roomy (path : Path) (history : List (Moment α κ)) : Prop :=
  ∀ act ∈ allActs history, act.frame.on path = true → ∀ job giving, act.frame.activity = .enqueue job giving →
    (act.store.enqueue act.background job).1 ≠ .full

/-- A run of a cache that knows of one path only, which does for the path what another run does for it. -/
structure MatchedRun (flags : ParseFlags) (capacity : Nat) (roles : List Role) (path : Path) (mine : Nat → Bool)
    (history : List (Moment α κ)) (system : System α κ) (later : List (Moment α κ)) (alone : System α κ) : Prop where
  run : Run flags capacity (roles ++ roles.map fun _ => .client) later alone
  beside : Beside path mine system alone
  honest : Honest later
  all : ∀ moment ∈ later, (moment.event? path id).isSome = true
  same : log path id (· % roles.length) later = log path (rank mine) id history
  made : ∀ number build, (builds history)[number]? = some build → (path == build.request.path) = true →
    (builds later)[rank mine number]?.map Build.request = some build.request

section Moves

variable {path : Path} {mine : Nat → Bool} {history : List (Moment α κ)} {moment : Moment α κ}
  {system next : System α κ} {move : Move α κ}

theorem log_append (path : Path) (number who : Nat → Nat) (history : List (Moment α κ)) (moment : Moment α κ) :
    log path number who (history ++ [moment]) =
      log path number who history ++ (moment.entry? path number who).toList := by
  rw [log, List.filterMap_append, log]
  cases told : moment.entry? path number who <;> simp [told]

theorem Knows.of_append (knows : Knows path mine (history ++ [moment])) : Knows path mine history := by
  intro number build known
  refine knows number build ?_
  rw [builds_append, List.getElem?_append_left (List.getElem?_eq_some_iff.mp known).1, known]

theorem Roomy.of_append (roomy : Roomy path (history ++ [moment])) : Roomy path history := by
  intro act inside
  refine roomy act ?_
  rw [allActs_append]
  exact List.mem_append_left _ inside

theorem Honest.append (honest : Honest history) (last : ∀ handle ∈ moment.passed, Made history handle) :
    Honest (history ++ [moment]) := by
  intro earlier other later whole handle passed
  rcases List.eq_nil_or_concat' later with rfl | ⟨later, final, rfl⟩
  · obtain ⟨rfl, same⟩ := List.append_inj' whole rfl
    cases same
    exact last handle passed
  · rw [← List.cons_append, ← List.append_assoc] at whole
    obtain ⟨rfl, -⟩ := List.append_inj' whole rfl
    exact honest earlier other later rfl handle passed

theorem on_of_passed {number : Nat → Nat} {event : Event α κ} (told : moment.event? path number = some event) :
    ∀ handle ∈ moment.passed, (path == handle.request.path) = true := by
  obtain ⟨system, move⟩ := moment
  intro handle passed
  cases move with
  | thread index choice =>
    cases choice with
    | call operation =>
      have begun : Moment.begins? (⟨system, .thread index (.call operation)⟩ : Moment α κ) =
        some (system.clock, .operation operation) := rfl
      rw [event?_of_begins begun] at told
      split at told
      next on =>
        rw [Frame.on_of_other rfl] at on
        cases operation with
        | hold own | reparse own | completeIn own =>
          cases List.mem_singleton.mp passed
          exact on
        | _ => cases passed
      next => cases told
    | _ => cases passed
  | _ => cases passed

theorem begins_or_acts (made : system.move? move = some next) :
    Moment.begins? ⟨system, move⟩ = none ∨ Moment.act? ⟨system, move⟩ = none := by
  cases progress_of_move made with
  | acts _ _ _ _ _ old => exact .inl old
  | begins _ _ idle | rests idle => exact .inr idle

theorem off_of_untold (made : system.move? move = some next) {number : Nat → Nat}
    (untold : Moment.event? path number ⟨system, move⟩ = none) {act : Act α κ}
    (acts : Moment.act? ⟨system, move⟩ = some act) : act.frame.on path = false := by
  rw [← Bool.not_eq_true]
  intro on
  cases progress_of_move made with
  | acts other turn left _ told old _ turned went =>
    cases acts.symm.trans told
    rw [event?_of_act old acts, Act.event?_of_on on turned] at untold
    have left_store : storeOf? ((turn.single act.frame.activity).over number act.store) = some act.store :=
      storeOf?_over _ (by rw [storeOf?_single, storeOf?_after went]; rfl)
    obtain ⟨event, known⟩ := Turn.event?_of_storeOf? left_store (act.call?.map (EngineCall.renumber number))
      (act.frame.activity.single.renumber number) act.choice
    rw [known] at untold
    cases untold
  | begins _ _ idle => cases idle.symm.trans acts
  | rests idle => cases idle.symm.trans acts

theorem view_of_move (sited : ∀ frame ∈ system.frames, Sited frame) (made : system.move? move = some next)
    (off : ∀ act, Moment.act? ⟨system, move⟩ = some act → act.frame.on path = false) :
    view next.store path = view system.store path := by
  rcases move?_cases made with ⟨index, choice, thread, later, rfl, found, acted, _, _⟩ | ⟨_, store, _, _⟩ |
    ⟨_, _, taken, _, _, _⟩ | ⟨_, store, _, _⟩
  · rcases act?_cases acted with ⟨_, _, store, _⟩ | ⟨_, _, store, _⟩ | ⟨_, _, taken, _⟩ | ⟨_, store, _⟩ | goes
    · rw [store]
    · rw [store]
      rfl
    · exact (dequeue_cases taken).2 path
    · rw [store]
    · obtain ⟨frame, rest, turn, left, stack, chosen, went, _⟩ := goes
      have told := (act?_of_stack found stack chosen).1
      have names_off := (sited frame (act_inside told)).placed.names_of_off (off _ told)
      exact view_of_off names_off chosen (storeOf?_after went)
  · rw [store]
  · exact (dequeue_cases taken).2 path
  · rw [store]
    rfl

end Moves

section Runs

variable {flags : ParseFlags} {capacity : Nat} {roles : List Role} {history : List (Moment α κ)} {system : System α κ}
  {path : Path} {mine : Nat → Bool}

theorem Run.length_threads (run : Run flags capacity roles history system) : system.threads.length = roles.length := by
  induction run with
  | start => exact List.length_map ..
  | @move history system next move run made ih =>
    rcases move?_cases made with ⟨_, _, _, _, _, _, _, threads, _⟩ | ⟨_, _, threads, _⟩ | ⟨_, _, _, threads, _⟩ |
      ⟨_, _, threads, _⟩ <;> simpa [threads] using ih

theorem Run.resting (run : Run flags capacity roles history system) :
    ∀ thread ∈ system.threads, ∀ frame ∈ thread.stack.tail, outside frame.activity = true := by
  induction run with
  | start =>
    intro thread inside
    obtain ⟨role, _, rfl⟩ := List.mem_map.mp inside
    simp
  | @move history system next move run made ih =>
    intro thread inside
    rcases move?_cases made with ⟨index, choice, before, later, rfl, found, acted, threads, _⟩ |
      ⟨_, _, threads, _⟩ | ⟨_, _, _, threads, _⟩ | ⟨_, _, threads, _⟩
    · rw [threads] at inside
      rcases List.mem_or_eq_of_mem_set inside with old | rfl
      · exact ih thread old
      · have there := ih before (List.mem_of_getElem? found)
        have acts := acts_of_act? acted
        generalize next.store = behind at acts
        cases acts with
        | calls operation may =>
          rw [Thread.mayCall, Bool.and_eq_true] at may
          exact outside_of_atLarge there may.1
        | releases => exact there
        | takes _ _ _ idle | ticks _ idle => simp [Thread.begin, idle]
        | goesOn _ frame rest turn _ left stack =>
          rw [stack] at there
          cases left with
          | none => exact fun frame below => there frame (List.mem_of_mem_tail below)
          | some => exact there
    all_goals
      rw [threads] at inside
      exact ih thread inside

theorem Run.scene (run : Run flags capacity roles history system) (honest : Honest history)
    (alive : system.stopping = false) (knows : Knows path mine history) : Scene path mine system := by
  have handled := run.handled honest
  have unit {handle : Handle} (made : Made history handle) : mine handle.number = (path == handle.request.path) := by
    obtain ⟨build, known, same⟩ := Option.map_eq_some_iff.mp made
    rw [← same]
    exact knows _ build known
  exact {
    keyed := run.sound.1.keyed
    sited := run.sited
    resting := run.resting
    used := fun frame inside handle its_own => unit (handled.frames frame inside handle its_own)
    guards := fun thread inside handle held => unit (handled.guards thread inside handle held)
    units := fun place handle here found => by
      rw [unit (run.grounded.entries place handle found)]
      exact BEq.symm (BEq.trans (run.sound.1.keyed.units place handle found) here)
    isOpen := run.queue.2 alive }

theorem Beside.start (flags : ParseFlags) (capacity : Nat) (roles : List Role) (path : Path) (mine : Nat → Bool) :
    Beside path mine (System.start flags capacity roles : System α κ)
      (.start flags capacity (roles ++ roles.map fun _ => .client)) := by
  refine ⟨⟨rfl, fun other => ?_, rfl, rfl, rfl, ?_, fun place _ => rfl⟩, ⟨?_, fun index thread found => ?_⟩, rfl⟩
  · split <;> rfl
  · exact (Nat.count_zero _).symm
  · simp [System.start]
  · obtain ⟨role, known, rfl⟩ : ∃ role, roles[index]? = some role ∧ thread = { role } := by
      simpa [System.start, eq_comm] using found
    obtain ⟨inside, rfl⟩ := List.getElem?_eq_some_iff.mp known
    refine ⟨{ role := roles[index] }, { role := .client }, ?_, ?_, ⟨rfl, rfl, .nil, .nil, fun _ => rfl⟩⟩
    · simp [System.start, List.getElem?_append_left, inside]
    · simp [System.start, inside]

section Steps

variable {next alone after : System α κ} {later : List (Moment α κ)} {move : Move α κ}

theorem MatchedRun.skip (matched : MatchedRun flags capacity roles path mine history system later alone)
    (sited : ∀ frame ∈ system.frames, Sited frame) (made : system.move? move = some next)
    (untold : Moment.event? path (rank mine) ⟨system, move⟩ = none) (beside : Beside path mine next alone) :
    MatchedRun flags capacity roles path mine (history ++ [⟨system, move⟩]) next later alone := by
  refine { matched with beside, same := ?_, made := fun number build known here => ?_ }
  · have no_entry : Moment.entry? path (rank mine) id ⟨system, move⟩ = none := by
      cases move with
      | thread => simp [Moment.entry?, untold]
      | _ => rfl
    rw [log_append, no_entry, Option.toList_none, List.append_nil, matched.same]
  · rcases builds_cases known with before | ⟨-, built⟩
    · exact matched.made number build before here
    · obtain ⟨act, acts, its_own⟩ := Option.bind_eq_some_iff.mp built
      obtain ⟨owner, keeps⟩ := Act.keeps_of_build? its_own
      have off := off_of_untold made untold acts
      have inside : build.request.path ∈ names act.frame.activity := by
        rw [keeps]
        exact List.mem_cons_self
      rw [Frame.on_of_names inside (sited _ (act_inside acts)).placed (BEq.symm here)] at off
      cases off

theorem MatchedRun.follow (matched : MatchedRun flags capacity roles path mine history system later alone)
    (run : Run flags capacity roles history system)
    (honest : ∀ handle ∈ Moment.passed ⟨system, move⟩, Made history handle) (made : system.move? move = some next)
    {index place : Nat} {choice again : Choice α κ} {event : Event α κ}
    (same : move = .thread index choice) (told : Moment.event? path (rank mine) ⟨system, move⟩ = some event)
    (its : place % system.threads.length = index) (followed : alone.move? (.thread place again) = some after)
    (told_alone : Moment.event? path id ⟨alone, .thread place again⟩ = some event)
    (beside : Beside path mine next after) :
    MatchedRun flags capacity roles path mine (history ++ [⟨system, move⟩]) next
      (later ++ [⟨alone, .thread place again⟩]) after := by
  refine ⟨matched.run.move followed, beside, matched.honest.append ?_, ?_, ?_, fun number build known here => ?_⟩
  · intro handle passed
    have both : (Moment.passed ⟨alone, .thread place again⟩).map (Handle.renumber id) =
        (Moment.passed ⟨system, move⟩).map (Handle.renumber (rank mine)) :=
      (passed_of_moment told_alone).symm.trans (passed_of_moment told)
    obtain ⟨own, there, rfl⟩ := List.mem_map.mp (both ▸ List.mem_map.mpr ⟨handle, passed, Handle.renumber_id handle⟩)
    obtain ⟨build, known, request⟩ := Option.map_eq_some_iff.mp (honest own there)
    have found := matched.made own.number build known (request ▸ on_of_passed told own there)
    rwa [request] at found
  · intro moment inside
    rcases List.mem_append.mp inside with old | new
    · exact matched.all moment old
    · rw [List.mem_singleton.mp new, told_alone]
      rfl
  · subst same
    have entry : Moment.entry? path (rank mine) id ⟨system, .thread index choice⟩ =
        some ⟨index, event, (view next.store path).renumber (rank mine)⟩ := by
      simp [Moment.entry?, told, made]
    have entry_alone : Moment.entry? path id (· % roles.length) ⟨alone, .thread place again⟩ =
        some ⟨index, event, (view next.store path).renumber (rank mine)⟩ := by
      rw [← beside.stores.view_of_on BEq.rfl]
      rw [run.length_threads] at its
      simp [Moment.entry?, told_alone, followed, its]
    rw [log_append, log_append, matched.same, entry, entry_alone]
  · rcases builds_cases known with before | ⟨rfl, built⟩
    · exact builds_grow (matched.made number build before here)
    · have kept : ((Moment.act? ⟨alone, .thread place again⟩).bind Act.build?).map Build.request =
          ((Moment.act? ⟨system, move⟩).bind Act.build?).map Build.request :=
        (kept?_of_moment (begins_or_acts followed) told_alone).trans (kept?_of_moment (begins_or_acts made) told).symm
      rw [built] at kept
      obtain ⟨last, its_own, request⟩ := Option.map_eq_some_iff.mp kept
      have length : rank mine (builds history).length = (builds later).length := by
        rw [run.grounded.length, matched.run.grounded.length, matched.beside.stores.count]
      rw [length, builds_append, its_own, Option.toList_some, List.getElem?_concat_length, Option.map_some, request]

end Steps

theorem Run.matched (run : Run flags capacity roles history system) (knows : Knows path mine history)
    (alive : system.stopping = false) (honest : Honest history) (roomy : Roomy path history) :
    ∃ later alone, MatchedRun flags capacity roles path mine history system later alone := by
  induction run with
  | start =>
    refine ⟨[], _, .start, .start .., ?_, by simp, rfl, ?_⟩
    · intro earlier moment later whole
      simp at whole
    · intro number build known
      simp [builds, allActs] at known
  | @move history system next move run made ih =>
    have alive_before : system.stopping = false := by
      rcases move?_cases made with ⟨_, _, _, _, _, _, _, _, stays⟩ | ⟨_, _, _, stopped⟩ | ⟨_, _, _, _, _, stopped⟩ |
        ⟨_, _, _, stays⟩
      · exact stays ▸ alive
      · cases stopped.symm.trans alive
      · cases stopped.symm.trans alive
      · exact stays ▸ alive
    obtain ⟨later, alone, matched⟩ := ih knows.of_append alive_before honest.of_append roomy.of_append
    have scene := run.scene honest.of_append alive_before knows.of_append
    have fresh : ∀ act, Moment.act? ⟨system, move⟩ = some act → ∀ request artifact owner,
        act.frame.activity = .keep request artifact owner → mine system.store.cells.length = (path == request.path) := by
      intro act acts request artifact owner keeps
      refine knows system.store.cells.length ⟨act.frame.number, request, artifact⟩ ?_
      rw [← run.grounded.length, builds_append, acts, Option.bind_some, Act.build?, keeps]
      exact List.getElem?_concat_length
    have room : ∀ act, Moment.act? ⟨system, move⟩ = some act → act.frame.on path = true → ∀ job giving,
        act.frame.activity = .enqueue job giving → (act.store.enqueue act.background job).1 ≠ .full := by
      intro act acts
      refine roomy act ?_
      rw [allActs_append, acts]
      exact List.mem_append_right _ List.mem_cons_self
    cases matched.beside.move scene (run.move made).sited alive made fresh room with
    | unmatched untold beside => exact ⟨later, alone, matched.skip run.sited made untold beside⟩
    | matched index place choice again event after same told its followed told_alone beside =>
      exact ⟨_, after, matched.follow run honest.last made same told its followed told_alone beside⟩

end Runs

def numbering (path : Path) (history : List (Moment α κ)) : Nat → Nat :=
  rank fun number => (builds history)[number]?.any fun build => path == build.request.path

/-- A run in which nothing is done for other paths, and the same for one path as in another run. Each of its threads has
a client beside it, which does what is called for the path while something is done for another one. -/
structure Apart (flags : ParseFlags) (capacity : Nat) (roles : List Role) (path : Path) (history : List (Moment α κ))
    (system : System α κ) (later : List (Moment α κ)) (alone : System α κ) : Prop where
  run : Run flags capacity (roles ++ roles.map fun _ => .client) later alone
  alive : alone.stopping = false
  honest : Honest later
  only : ∀ moment ∈ later, (moment.event? path id).isSome = true
  /-- Calls return the same, the engine is asked the same, and the cache holds the same for the path. -/
  same : log path id (· % roles.length) later = log path (numbering path history) id history
  obeys : ∀ engine, Obeys engine (log path (numbering path history) id history) →
    Obeys engine (log path id (· % roles.length) later)
  left : view alone.store path = (view system.store path).renumber (numbering path history)

section Main

variable {flags : ParseFlags} {capacity : Nat} {roles : List Role} {history : List (Moment α κ)} {system : System α κ}

/-- Whatever is not done for a path leaves the entry, the mark and the pending request of the path as they are. And while
the cache is not given up, and no job for the path is refused for want of room, the run can do without all that is done
for other paths. -/
theorem paths_are_isolated (run : Run flags capacity roles history system) (path : Path) :
    (∀ earlier before move later next, history = earlier ++ ⟨before, move⟩ :: later → before.move? move = some next →
      (∀ act, Moment.act? ⟨before, move⟩ = some act → act.frame.on path = false) →
      view next.store path = view before.store path) ∧
    (system.stopping = false → Honest history → Roomy path history →
      ∃ later alone, Apart flags capacity roles path history system later alone) := by
  refine ⟨fun earlier before move later next whole made off => ?_, fun alive honest roomy => ?_⟩
  · have inside : (⟨before, move⟩ : Moment α κ) ∈ history := by
      rw [whole]
      exact List.mem_append_right _ List.mem_cons_self
    obtain ⟨_, reached⟩ := run.reached inside
    exact view_of_move reached.sited made off
  · have knows :
        Knows path (fun number => (builds history)[number]?.any fun build => path == build.request.path) history :=
      fun number build known => by simp [known]
    obtain ⟨later, alone, matched⟩ := run.matched knows alive honest roomy
    refine ⟨later, alone, matched.run, matched.beside.alive, matched.honest, matched.all, matched.same,
      fun engine obeys => ?_, matched.beside.stores.view_of_on BEq.rfl⟩
    exact matched.same ▸ obeys

end Main

/-- A worker builds one file, another one is asked for from its callback, and then kept in use by a client. -/
def calledBetween : List (Move Nat Unit) :=
  [.thread 0 (.call (.addParse { request := ⟨⟨"b.c"⟩, [], none⟩, callback := some () })), .thread 0 .proceed,
    .thread 0 .proceed, .thread 1 .take, .thread 1 .proceed, .thread 1 .proceed, .thread 1 (.parsed (.ok 2)),
    .thread 1 .proceed, .thread 1 .proceed, .thread 1 (.call (.getUnit ⟨⟨"a.c"⟩, [], none⟩)), .thread 1 .proceed,
    .thread 1 .proceed, .thread 1 (.parsed (.ok 3)), .thread 1 .proceed, .thread 1 .proceed, .thread 1 (.returned false),
    .thread 0 (.call (.hold ⟨1, ⟨⟨"a.c"⟩, [], none⟩⟩)), .thread 0 .proceed,
    .thread 0 (.release ⟨1, ⟨⟨"a.c"⟩, [], none⟩⟩)]

def honestAt (history : List (Moment α κ)) (place : Nat) : Bool :=
  history[place]?.all fun moment => moment.passed.all fun handle =>
    (builds (history.take place))[handle.number]?.map Build.request == some handle.request

theorem honest_of_places {history : List (Moment α κ)}
    (all : ∀ place < history.length, honestAt history place = true) : Honest history := by
  rintro earlier moment later rfl handle passed
  have here := all earlier.length (by simp)
  simp only [honestAt, List.getElem?_append_right (Nat.le_refl _), Nat.sub_self, List.getElem?_cons_zero, Option.all_some,
    List.all_eq_true, List.take_left] at here
  exact eq_of_beq (here handle passed)

def findsRoom (act : Act α κ) : Bool :=
  match act.frame.activity with
  | .enqueue job _ => (act.store.enqueue act.background job).1 != .full
  | _ => true

theorem roomy_of_acts {history : List (Moment α κ)} (all : ∀ act ∈ allActs history, findsRoom act = true)
    (path : Path) : Roomy path history := by
  intro act inside _ job giving activity
  have free := all act inside
  rw [findsRoom, activity] at free
  exact bne_iff_ne.mp free

theorem call_from_other_callback_is_isolated : ∃ (history : List (Moment Nat Unit)) (system : System Nat Unit),
    Run ⟨0⟩ 2 [.client, .worker] history system ∧ system.stopping = false ∧ Honest history ∧ Roomy ⟨"a.c"⟩ history ∧
      history.length = 19 ∧ (log ⟨"a.c"⟩ (numbering ⟨"a.c"⟩ history) id history).length = 9 ∧
      ∃ later alone, Apart ⟨0⟩ 2 [.client, .worker] ⟨"a.c"⟩ history system later alone := by
  obtain ⟨history, system, run, checked⟩ := Run.of_follow ⟨0⟩ 2 [.client, .worker] calledBetween
    (fun history system => history.length == 19 &&
      (log ⟨"a.c"⟩ (numbering ⟨"a.c"⟩ history) id history).length == 9 && !system.stopping &&
      (List.range 19).all (honestAt history) && (allActs history).all findsRoom) (by decide)
  simp only [Bool.and_eq_true, beq_iff_eq, Bool.not_eq_true', List.all_eq_true, List.mem_range] at checked
  obtain ⟨⟨⟨⟨long, entries⟩, alive⟩, honest⟩, room⟩ := checked
  have honest : Honest history := honest_of_places (long ▸ honest)
  have roomy : Roomy ⟨"a.c"⟩ history := roomy_of_acts room _
  exact ⟨history, system, run, alive, honest, roomy, long, entries, (paths_are_isolated run _).2 alive honest roomy⟩

end UnitCache.Interleaving
