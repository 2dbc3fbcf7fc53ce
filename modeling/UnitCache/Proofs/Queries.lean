import UnitCache.Proofs.Answers
import UnitCache.Proofs.Deadlock
import UnitCache.Proofs.Origins
/-!
Questions for completions. A question only reads: between its acts the unit is in use for it, and nothing else of the
cache changes by it. It is refused if there are contents that are not saved, has an empty answer if there is no unit,
and else has the answer that the engine gives for the unit.
-/
namespace UnitCache

section Errors

/-- How an error of the engine is told: one about completions as it is, and any other one as the cause of one. -/
structure Error.ToldAs (error told : Error) : Prop where
  kind : told.kind = .completion
  same : error.kind = .completion → told = error
  wrapped : error.kind ≠ .completion →
    told.message = "Completion error: completion results are not valid: " ++ error.message

theorem toldAs_queryError (error : Error) : error.ToldAs (queryError error) := by
  by_cases own : error.kind = .completion
  · have same : queryError error = error := by simp [queryError, own]
    exact ⟨by rw [same, own], fun _ => same, fun other => absurd own other⟩
  · have wrapped : queryError error = .notValid error := by simp [queryError, own]
    rw [wrapped]
    refine ⟨rfl, fun same => absurd same own, fun _ => ?_⟩
    have heading : "Completion error: completion results are not valid: " =
        "Completion error: " ++ "completion results are not valid: " := by simp
    rw [heading]
    change "Completion error: " ++ ("completion results are not valid: " ++ error.kind.heading ++ error.detail) = _
    rw [Error.message, String.append_assoc, String.append_assoc]

end Errors

namespace Interleaving

variable {α κ : Type}

/-- A store that differs from another one at most in which units are in use. -/
structure SameButLocks (store next : Store α κ) : Prop where
  flags : next.flags = store.flags
  units : next.units = store.units
  parsing : next.parsing = store.parsing
  pending : next.pending = store.pending
  queue : next.queue = store.queue
  counters : next.counters = store.counters
  artifacts : next.artifacts = store.artifacts

structure Act.Reads (act : Act α κ) (activity : Activity α κ) (next : Store α κ) : Prop where
  activity : act.frame.activity = activity
  left : act.next? = some next
  same : SameButLocks act.store next

inductive ComesTo : Answer (List Candidate) → Outcome → Prop where
  | candidates (candidates : List Candidate) :
      ComesTo (.ok candidates) (.completed (.ok (CompletionResult.ofCandidates candidates).1))
  | failed {error told : Error} (toldAs : error.ToldAs told) : ComesTo (.error error) (.completed (.error told))
  | panicked : ComesTo .panic .panicked

/-- The first act of a question that finds a unit. It asks for no options, so it takes any unit at the path. -/
structure FindsUnit (query : CompletionQuery) (handle : Handle) (look : Act α κ) : Prop where
  saved : query.cursor.file.contents = ""
  found : look.store.peek query.cursor.file.name = some handle
  reads : look.Reads (.ask query) look.store
  silent : look.fromEngine = false

structure Takes (query : CompletionQuery) (handle : Handle) (take : Act α κ) : Prop where
  free : take.store.isLocked handle.number = false
  reads : take.Reads (.acquire handle (.query query.cursor.line query.cursor.column)) (take.store.lock handle.number)
  silent : take.fromEngine = false

structure Answers (flags : ParseFlags) (query : CompletionQuery) (handle : Handle) (answer : Answer (List Candidate))
    (reply : Act α κ) : Prop where
  asked : (reply.frame.activity.step reply.background reply.store) =
    .engine (.complete handle query.cursor.line query.cursor.column flags)
  answered : ∃ noted, reply.choice = .completed answer noted
  reads : reply.Reads (.using handle (.query query.cursor.line query.cursor.column)) (reply.store.unlock handle.number)
  free : (reply.store.unlock handle.number).isLocked handle.number = false

inductive Asking (query : CompletionQuery) : List (Act α κ) → Activity α κ → Prop where
  | begun : Asking query [] (.ask query)
  | found {look : Act α κ} {handle : Handle} (finds : FindsUnit query handle look) :
      Asking query [look] (.acquire handle (.query query.cursor.line query.cursor.column))
  | taken {look take : Act α κ} {handle : Handle} (finds : FindsUnit query handle look)
      (takes : Takes query handle take) :
      Asking query [look, take] (.using handle (.query query.cursor.line query.cursor.column))

/-- How a question ends, and what it has done for that. -/
inductive Replied (flags : ParseFlags) (query : CompletionQuery) : List (Act α κ) → Outcome → Prop where
  /-- There are contents that are not saved. No matter whether there is a unit, it is not looked at. -/
  | refused {look : Act α κ} (unsaved : query.cursor.file.contents ≠ "") (reads : look.Reads (.ask query) look.store)
      (silent : look.fromEngine = false) : Replied flags query [look] (.completed (.error .unsavedFile))
  /-- There is no unit. -/
  | nothing {look : Act α κ} (saved : query.cursor.file.contents = "")
      (absent : look.store.peek query.cursor.file.name = none) (reads : look.Reads (.ask query) look.store)
      (silent : look.fromEngine = false) : Replied flags query [look] (.completed (.ok {}))
  /-- The engine is asked about the unit, once. -/
  | answered {look take reply : Act α κ} {handle : Handle} {answer : Answer (List Candidate)} {outcome : Outcome}
      (finds : FindsUnit query handle look) (takes : Takes query handle take)
      (answers : Answers flags query handle answer reply) (told : ComesTo answer outcome) :
      Replied flags query [look, take, reply] outcome

section Stores

variable (store : Store α κ) (number : Nat)

theorem SameButLocks.refl : SameButLocks store store := ⟨rfl, rfl, rfl, rfl, rfl, rfl, rfl⟩

theorem sameButLocks_lock : SameButLocks store (store.lock number) :=
  ⟨rfl, rfl, rfl, rfl, rfl, rfl, artifacts_lock store number⟩

theorem sameButLocks_unlock : SameButLocks store (store.unlock number) :=
  ⟨rfl, rfl, rfl, rfl, rfl, rfl, artifacts_unlock store number⟩

theorem isLocked_unlock_self : (store.unlock number).isLocked number = false := by
  by_contra locked
  exact (isLocked_unlock store number number (Bool.not_eq_false _ ▸ locked)).2 rfl

end Stores

section Steps

variable {flags : ParseFlags} {query : CompletionQuery} {row : List (Act α κ)} {act : Act α κ} {turn : Turn α κ}

theorem contents_of_saved (file : SourceFile) : file.hasUnsavedContents = false ↔ file.contents = "" := by
  simp [SourceFile.hasUnsavedContents]

theorem contents_of_unsaved (file : SourceFile) : file.hasUnsavedContents = true ↔ file.contents ≠ "" := by
  rw [← Bool.not_eq_false, contents_of_saved]

/-- Each act takes a question from one stage to the next, or to its end. -/
theorem Asking.step (built : act.store.flags = flags) (asking : Asking query row act.frame.activity)
    (turned : act.turn? = some turn) :
    Leads turn (Asking query (row ++ [act])) (Replied flags query (row ++ [act])) := by
  have rule : Rule act.background act.store act.frame.activity act.choice turn := rule_of_turn turned
  have reads {activity : Activity α κ} {next : Store α κ} (does : act.frame.activity = activity)
      (goes : behind? turn = some next) (same : SameButLocks act.store next) : act.Reads activity next :=
    ⟨does, by rw [Act.next?, turned]; exact goes, same⟩
  have silent (chosen : act.choice = .proceed) : act.fromEngine = false := by rw [Act.fromEngine, chosen]
  generalize activity : act.frame.activity = doing at asking rule
  generalize chosen : act.choice = choice at rule
  cases asking with
  | begun =>
    have stays := SameButLocks.refl act.store
    cases rule with
    | askUnsaved _ unsaved =>
      exact .refused ((contents_of_unsaved _).mp unsaved) (reads activity rfl stays) (silent chosen)
    | askNothing _ saved absent =>
      exact .nothing ((contents_of_saved _).mp saved) absent (reads activity rfl stays) (silent chosen)
    | ask _ handle saved found =>
      exact .found ⟨(contents_of_saved _).mp saved, found, reads activity rfl stays, silent chosen⟩
  | @found look handle finds =>
    have locks := sameButLocks_lock act.store handle.number
    cases rule with
    | awaitUnit => trivial
    | acquire _ _ free => exact .taken finds ⟨free, reads activity rfl locks, silent chosen⟩
  | @taken look take handle finds takes =>
    have asked : act.frame.activity.step act.background act.store =
        .engine (.complete handle query.cursor.line query.cursor.column flags) := by
      rw [activity, ← built]
      rfl
    have unlocks := sameButLocks_unlock act.store handle.number
    have free := isLocked_unlock_self act.store handle.number
    cases rule with
    | askUse => trivial
    | queryDone _ _ _ candidates noted =>
      exact .answered finds takes ⟨asked, ⟨noted, chosen⟩, reads activity rfl unlocks, free⟩ (.candidates candidates)
    | queryFailed _ _ _ error noted =>
      exact .answered finds takes ⟨asked, ⟨noted, chosen⟩, reads activity rfl unlocks, free⟩
        (.failed (toldAs_queryError error))
    | queryPanicked _ _ _ noted =>
      exact .answered finds takes ⟨asked, ⟨noted, chosen⟩, reads activity rfl unlocks, free⟩ .panicked

theorem Replied.unsupported_iff {outcome : Outcome} (replied : Replied flags query row outcome) :
    (∃ error, outcome = .completed (.error error) ∧ error.kind = .unsupported) ↔ query.cursor.file.contents ≠ "" := by
  cases replied with
  | refused unsaved => exact ⟨fun _ => unsaved, fun _ => ⟨_, rfl, rfl⟩⟩
  | nothing saved =>
    refine ⟨?_, fun unsaved => absurd saved unsaved⟩
    rintro ⟨_, ⟨⟩, _⟩
  | answered finds takes answers comes =>
    refine ⟨?_, fun unsaved => absurd finds.saved unsaved⟩
    rintro ⟨error, rfl, unsupported⟩
    cases comes with
    | failed told =>
      rw [told.kind] at unsupported
      cases unsupported

end Steps

def Questioning (row : List (Act α κ)) (task : Task κ) (activity : Activity α κ) : Prop :=
  match task with
  | .operation (.complete query) => Asking query row activity
  | _ => True

def Questioned (flags : ParseFlags) (row : List (Act α κ)) (task : Task κ) (outcome : Outcome) : Prop :=
  match task with
  | .operation (.complete query) => Replied flags query row outcome
  | _ => True

section Runs

variable {flags : ParseFlags} {capacity : Nat} {roles : List Role} {history : List (Moment α κ)} {system : System α κ}

theorem Run.questioning (run : Run flags capacity roles history system) (number : Nat) (task : Task κ)
    (begun : (number, task) ∈ Interleaving.started history) :
    Fares Questioning (Questioned flags) history system number task := by
  refine run.fares ?_ ?_ number task begun
  · intro task activity first
    cases first with
    | operation operation =>
      cases operation with
      | complete query => exact .begun
      | _ => trivial
    | _ => trivial
  · intro earlier before move act row turn run told turned kept
    have built : act.store.flags = flags := by rw [act_store told, run.flags_eq]
    generalize act.frame.task = task at kept ⊢
    cases task with
    | operation operation =>
      cases operation with
      | complete query => exact Asking.step built kept turned
      | _ => exact leads_anywhere turn
    | _ => exact leads_anywhere turn

theorem Run.question_goesOn (run : Run flags capacity roles history system) {index : Nat} {thread : Thread α κ}
    {frame : Frame α κ} {rest : List (Frame α κ)} {query : CompletionQuery}
    (found : system.threads[index]? = some thread) (stack : thread.stack = frame :: rest)
    (asks : frame.task = .operation (.complete query)) :
    CanGoOn system index thread ∨ ∃ handle, system.store.isLocked handle.number = true ∧
      frame.activity = .acquire handle (.query query.cursor.line query.cursor.column) := by
  refine (goesOn_or_waits found stack).imp_right fun waits => ?_
  have inside : frame ∈ system.frames := List.mem_flatMap.mpr ⟨thread, List.mem_of_getElem? found, by simp [stack]⟩
  have begun := run.started.1 frame inside
  cases run.questioning _ _ begun with
  | finished gone => exact absurd (List.mem_map_of_mem inside) gone
  | goes_on activity there _ kept =>
    have same : frame = ⟨frame.number, frame.task, activity⟩ := run.frame_eq inside there rfl
    have doing : frame.activity = activity := by rw [same]
    rw [asks] at kept
    rw [doing] at waits ⊢
    generalize acts frame.number history = row at kept
    cases kept with
    | begun => cases waits
    | taken => cases waits
    | found finds =>
      cases waits with
      | unit _ _ taken => exact ⟨_, taken, rfl⟩

/-- A question only reads. It fails as not supported if and only if there are contents that are not saved, and then it
looks at nothing; without a unit its answer is empty; and else the engine is asked once about the unit that is there,
whatever it was built for, and the answer is told, an error as one about completions. All that it changes is that the
unit is in use meanwhile; it is free again when the engine has answered, be it by a panic. -/
theorem questions_only_read (run : Run flags capacity roles history system) {number : Nat} {query : CompletionQuery}
    (began : (number, .operation (.complete query)) ∈ started history) :
    Fares (fun row _ activity => Asking query row activity)
      (fun row _ outcome => Replied flags query row outcome ∧
        ((∃ error, outcome = .completed (.error error) ∧ error.kind = .unsupported) ↔
          query.cursor.file.contents ≠ ""))
      history system number (.operation (.complete query)) ∧
    ∀ index thread frame rest, system.threads[index]? = some thread → thread.stack = frame :: rest →
      frame.number = number → CanGoOn system index thread ∨ ∃ handle, system.store.isLocked handle.number = true ∧
        frame.activity = .acquire handle (.query query.cursor.line query.cursor.column) := by
  refine ⟨?_, fun index thread frame rest found stack own => ?_⟩
  · cases run.questioning _ _ began with
    | goes_on activity inside pending kept => exact .goes_on activity inside pending kept
    | finished gone outcome told ended => exact .finished gone outcome told ⟨ended, ended.unsupported_iff⟩
  · have inside : frame ∈ system.frames := List.mem_flatMap.mpr ⟨thread, List.mem_of_getElem? found, by simp [stack]⟩
    have same := List.inj_on_of_nodup_map run.started.2.2 (run.started.1 frame inside) began own
    exact run.question_goesOn found stack (congrArg Prod.snd same)

end Runs

def beganQuestion (history : List (Moment α κ)) (number : Nat) (query : CompletionQuery) : Bool :=
  (started history).any fun pair =>
    match pair.2 with
    | .operation (.complete asked) => pair.1 == number && asked == query
    | _ => false

theorem started_of_beganQuestion {history : List (Moment α κ)} {number : Nat} {query : CompletionQuery}
    (began : beganQuestion history number query = true) : (number, .operation (.complete query)) ∈ started history := by
  obtain ⟨⟨first, task⟩, inside, same⟩ := List.any_eq_true.mp began
  dsimp only at same
  split at same
  next asked =>
    simp only [Bool.and_eq_true, beq_iff_eq] at same
    rwa [← same.1, ← same.2]
  next => cases same

def asksAboutUnit : List (Move Unit Unit) :=
  [.thread 0 (.call (.getUnit ⟨⟨"a.c"⟩, ["-O2"], none⟩)), .thread 0 .proceed, .thread 0 .proceed,
    .thread 0 (.parsed (.ok ())), .thread 0 .proceed, .thread 0 .proceed,
    .thread 0 (.call (.complete (.inSaved ⟨"a.c"⟩ 1 2))), .thread 0 .proceed, .thread 0 .proceed,
    .thread 0 (.completed (.error (.file .notFound)) [])]

theorem failed_question_is_told_and_gives_unit_free :
    ∃ (history : List (Moment Unit Unit)) (system : System Unit Unit) (outcome : Outcome),
      Run ⟨0⟩ 1 [.client] history system ∧
      (6, .operation (.complete (.inSaved ⟨"a.c"⟩ 1 2))) ∈ started history ∧
      outcome? 6 history = some outcome ∧ Replied ⟨0⟩ (.inSaved ⟨"a.c"⟩ 1 2) (acts 6 history) outcome := by
  obtain ⟨history, system, run, checked⟩ := Run.of_follow ⟨0⟩ 1 [.client] asksAboutUnit
    (fun history system => beganQuestion history 6 (.inSaved ⟨"a.c"⟩ 1 2) && system.frames.isEmpty) (by decide)
  rw [Bool.and_eq_true] at checked
  have began := started_of_beganQuestion checked.1
  cases (questions_only_read run began).1 with
  | goes_on _ inside =>
    rw [List.isEmpty_iff.mp checked.2] at inside
    cases inside
  | finished _ outcome told ended => exact ⟨history, system, outcome, run, began, told, ended.1⟩

end Interleaving
end UnitCache
