import UnitCache.CommandLine.Session
import UnitCache.Proofs.Warming
/-!
A client that has a cache to itself. What it does one after the other is a run like any other: its calls, the answers of
the engine and the store that they leave are those of its session.
-/
namespace UnitCache.Interleaving

variable {α κ : Type}

def alone (store : Store α κ) (stack : List (Frame α κ)) (clock : Nat) : System α κ :=
  { store, threads := [{ role := .client, stack }], clock }

/-- What a client alone has called for, and what the engine has answered, when it has come so far. -/
structure Solo (flags : ParseFlags) (capacity : Nat) (calls : List Request) (log : List (Request × Answer α))
    (store : Store α κ) (stack : List (Frame α κ)) : Prop where
  reached : ∃ history clock, Run flags capacity [.client] history (alone store stack clock) ∧ UnitCalls history ∧
    called history = calls ∧ parses history = log

section Alone

variable {flags : ParseFlags} {capacity : Nat} {calls : List Request} {log : List (Request × Answer α)}
  {store : Store α κ}

theorem solo_start (flags : ParseFlags) (capacity : Nat) :
    Solo flags capacity [] [] (.empty flags capacity : Store α κ) [] :=
  ⟨[], 0, .start, ⟨by simp [started], by simp [allActs]⟩, rfl, rfl⟩

theorem UnitCalls.append {history : List (Moment α κ)} {moment : Moment α κ} (only : UnitCalls history)
    (calls : ∀ number operation, moment.begins? = some (number, .operation operation) →
      ∃ request, operation = .getUnit request)
    (calm : ∀ act, moment.act? = some act → act.choice ≠ .parsed .panic) : UnitCalls (history ++ [moment]) := by
  refine ⟨fun number operation inside => ?_, fun act inside => ?_⟩
  · rw [started_append, List.mem_append, Option.mem_toList] at inside
    exact inside.elim (only.calls number operation) (calls number operation)
  · rw [allActs_append, List.mem_append, Option.mem_toList] at inside
    exact inside.elim (only.calm act) (calm act)

theorem Solo.call (solo : Solo flags capacity calls log store []) (request : Request) :
    ∃ number, Solo flags capacity (calls ++ [request]) log store
      [⟨number, .operation (.getUnit request), .lookUp request⟩] := by
  obtain ⟨history, clock, run, only, rfl, rfl⟩ := solo.reached
  have moved : (alone store [] clock).move? (.thread 0 (.call (.getUnit request))) =
      some (alone store [⟨clock, .operation (.getUnit request), .lookUp request⟩] (clock + 1)) := rfl
  refine ⟨clock, _, clock + 1, run.move moved, only.append ?_ ?_, ?_, ?_⟩
  · rintro number operation ⟨⟩
    exact ⟨request, rfl⟩
  · rintro act ⟨⟩
  · rw [called_append]
    rfl
  · rw [parses_append]
    exact List.append_nil _

@[simp]
theorem parse?_proceed (background : Bool) (store : Store α κ) (frame : Frame α κ) :
    Act.parse? ⟨background, store, frame, .proceed⟩ = none := by
  unfold Act.parse?
  split
  next same => cases same
  next => rfl

@[simp]
theorem parse?_parsed (background : Bool) (store : Store α κ) (number : Nat) (task : Task κ) (request : Request)
    (owner : Owner κ) (answer : Answer α) :
    Act.parse? ⟨background, store, ⟨number, task, .parsing request owner⟩, .parsed answer⟩ = some (request, answer) :=
  rfl

theorem proceed_ne_panic : (Choice.proceed : Choice α κ) ≠ .parsed .panic := by
  intro same
  cases same

theorem Solo.act {frame : Frame α κ} {turn : Turn α κ} {next : Store α κ} {left : Option (Frame α κ)}
    (solo : Solo flags capacity calls log store [frame]) (choice : Choice α κ)
    (chosen : turn? false store frame.activity choice = some turn) (made : frame.after? turn = some (next, left))
    (calm : choice ≠ .parsed .panic) (keeps_none : frame.kept = none) :
    Solo flags capacity calls (log ++ (Act.parse? ⟨false, store, frame, choice⟩).toList) next left.toList := by
  obtain ⟨history, clock, run, only, rfl, rfl⟩ := solo.reached
  have found : (alone store [frame] clock).threads[0]? = some { role := .client, stack := [frame] } := rfl
  have moved : (alone store [frame] clock).move? (.thread 0 choice) = some (alone next left.toList (clock + 1)) := by
    rw [move?_of_turn found rfl chosen made, keeps_none]
    cases left <;> rfl
  have told : Moment.act? ⟨alone store [frame] clock, .thread 0 choice⟩ = some ⟨false, store, frame, choice⟩ := by
    have goes : Act.turn? ⟨false, store, frame, choice⟩ = some turn := chosen
    simp only [Moment.act?, found, Option.bind_eq_bind, Option.bind_some, List.head?_cons]
    exact if_pos (Option.isSome_iff_exists.mpr ⟨turn, goes⟩)
  have old : Moment.begins? ⟨alone store [frame] clock, .thread 0 choice⟩ = none := by
    cases choice <;> first | rfl | cases chosen
  refine ⟨_, _, run.move moved, only.append (by simp [old]) ?_, ?_, ?_⟩
  · intro act now
    cases told.symm.trans now
    exact calm
  · rw [called_append, old]
    exact List.append_nil _
  · rw [parses_append, told]
    rfl

end Alone

section Sessions

variable {session : CommandLine.Session} {activity later : Activity Artifact Empty} {store : Store Artifact Empty}
  {warnings : List Warning}

theorem perform_next (fuel : Nat) (steps : activity.step false session.store = .next store later warnings) :
    session.perform (fuel + 1) activity =
      CommandLine.Session.perform fuel { session with store, warnings := session.warnings ++ warnings } later := by
  rw [CommandLine.Session.perform, steps]

theorem perform_done (fuel : Nat) {outcome : Outcome}
    (steps : activity.step false session.store = .done store outcome warnings) :
    session.perform (fuel + 1) activity =
      (some outcome, { session with store, warnings := session.warnings ++ warnings }) := by
  rw [CommandLine.Session.perform, steps]

theorem perform_parse (fuel : Nat) {request : Request} {owner : Owner Empty} {answer : Answer Artifact}
    (answered : (session.engine.parse session.world request).1 = answer)
    (goes : (Activity.parsing request owner).afterParse session.store answer = .next store later warnings) :
    session.perform (fuel + 1) (.parsing request owner) =
      CommandLine.Session.perform fuel { session with
        store
        world := (session.engine.parse session.world request).2
        warnings := session.warnings ++ warnings } later := by
  rw [CommandLine.Session.perform, Activity.step]
  simp only [CommandLine.Session.call, answered, goes]

theorem parse_calm (engine : Engine) (world : World) (request : Request) :
    (engine.parse world request).1 ≠ .panic := by
  cases engine with
  | treeSitter =>
    unfold Engine.parse
    dsimp only
    split <;> nofun
  | clang compiler =>
    unfold Engine.parse
    dsimp only
    split <;> nofun

theorem step_settle (store : Store Artifact Empty) (request : Request) (built : Option Handle)
    (nothing : store.pending.get? request.path = none) :
    Activity.step false store (.settle (.first request) built) =
      .done { store with parsing := store.parsing.erase request.path } (.unit built) [] := by
  simp only [Activity.step, Owner.path?, settle_of_nothing store request.path nothing, Owner.finish]

theorem getUnit_of_perform {request : Request} {built : Option Handle} {behind : CommandLine.Session}
    (performed : session.perform CommandLine.Session.activityBound (.lookUp request) = (some (.unit built), behind)) :
    session.getUnit request = (built, behind) := by
  rw [CommandLine.Session.getUnit, performed]

def parseBegun (store : Store α κ) (path : Path) : Store α κ :=
  (store.mark path).count fun counters => { counters with parses := counters.parses + 1 }

theorem pending_parseBegun (store : Store α κ) (path : Path) : (parseBegun store path).pending = store.pending := by
  obtain ⟨_, same⟩ := mark_eq store path
  rw [parseBegun, same]
  rfl

/-- How a client alone comes by a unit that is not there, once the engine has given it something to go on with. -/
theorem Solo.getUnit_of_answer {flags : ParseFlags} {capacity : Nat} {calls : List Request}
    {log : List (Request × Answer Artifact)} {request : Request} {answer : Answer Artifact}
    {third : Store Artifact Empty} {built : Option Handle} (solo : Solo flags capacity calls log session.store [])
    (blank : view session.store request.path = .blank)
    (answered : (session.engine.parse session.world request).1 = answer) (calm : answer ≠ .panic)
    (goes : (Activity.parsing request (.first request)).afterParse (parseBegun session.store request.path) answer =
      .next (parseBegun session.store request.path) later [])
    (keeps_none : ∀ number task, Frame.kept ⟨number, task, later⟩ = none)
    (steps : later.step false (parseBegun session.store request.path) =
      .next third (.settle (.first request) built) warnings)
    (same : third.pending = (parseBegun session.store request.path).pending) :
    Solo flags capacity (calls ++ [request]) (log ++ [(request, answer)]) (session.getUnit request).2.store [] ∧
    (session.getUnit request).1 = built ∧ (session.getUnit request).2.engine = session.engine ∧
    (session.getUnit request).2.world = (session.engine.parse session.world request).2 := by
  obtain ⟨number, begins⟩ := solo.call request
  have absent : session.store.peek request.path = none := congrArg View.entry blank
  have free : session.store.isParsing request.path = false := congrArg View.marked blank
  have first : Activity.step false session.store (.lookUp request) =
      .next (session.store.mark request.path) (.build request (.first request)) [] := by
    simp [Activity.step, Store.lookUp, absent, free]
  have last := step_settle third request built (by
    rw [same, pending_parseBegun]
    exact congrArg View.pending blank)
  have looked := begins.act .proceed (congrArg some first) rfl proceed_ne_panic rfl
  have asked := looked.act .proceed rfl rfl proceed_ne_panic rfl
  have told := asked.act (.parsed answer) (congrArg some goes) rfl (fun same => calm (by cases same; rfl)) rfl
  have done := told.act .proceed (congrArg some steps) rfl proceed_ne_panic (keeps_none _ _)
  have ended := done.act .proceed (congrArg some last) rfl proceed_ne_panic rfl
  have performed := (perform_next 15 first).trans <| (perform_next 14 rfl).trans <|
    (perform_parse 13 (by exact answered) (by exact goes)).trans <| (perform_next 12 (by exact steps)).trans <|
    perform_done 11 (by exact last)
  rw [getUnit_of_perform performed]
  refine ⟨?_, rfl, rfl, rfl⟩
  simpa using ended

/-- A client alone that finds nothing has its unit built, and comes back as the engine has answered it. -/
theorem Solo.getUnit {flags : ParseFlags} {capacity : Nat} {calls : List Request}
    {log : List (Request × Answer Artifact)} (solo : Solo flags capacity calls log session.store []) (request : Request)
    (blank : view session.store request.path = .blank) :
    Solo flags capacity (calls ++ [request]) (log ++ [(request, (session.engine.parse session.world request).1)])
      (session.getUnit request).2.store [] ∧
    (session.getUnit request).1.isNone = refuses (session.engine.parse session.world request).1 ∧
    (session.getUnit request).2.engine = session.engine ∧
    (session.getUnit request).2.world = (session.engine.parse session.world request).2 := by
  cases answered : (session.engine.parse session.world request).1 with
  | ok artifact =>
    obtain ⟨ended, built, same⟩ := solo.getUnit_of_answer blank answered nofun rfl (fun _ _ => rfl) rfl rfl
    exact ⟨ended, by rw [built]; rfl, same⟩
  | error error =>
    obtain ⟨ended, built, same⟩ := solo.getUnit_of_answer blank answered nofun rfl (fun _ _ => rfl) rfl rfl
    exact ⟨ended, by rw [built]; rfl, same⟩
  | panic => exact absurd answered (parse_calm _ _ _)

end Sessions

end UnitCache.Interleaving
