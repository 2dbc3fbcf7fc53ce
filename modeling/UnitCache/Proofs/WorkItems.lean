import UnitCache.Proofs.Fates
import UnitCache.Proofs.Marks
import UnitCache.Proofs.Queue
import UnitCache.Proofs.Rules
/-!
What becomes of a job. It is queued once, and run at most once, in its turn; and its callback is called once when it is
done, unless the engine has panicked for it. By then its path is no longer marked for it.
-/
namespace UnitCache.Interleaving

variable {α κ : Type}

def panics : Choice α κ → Bool
  | .parsed .panic | .reparsed .panic | .completed .panic _ => true
  | _ => false

def panicked (row : List (Act α κ)) : Bool := row.any fun act => panics act.choice

def Act.calls? (act : Act α κ) : Option κ :=
  match act.turn? with
  | some (.next _ (.calling callback) _) => some callback
  | _ => none

def Operation.adds? : Operation κ → Option (Job κ)
  | addParse job => some { job with kind := .parse }
  | addReparse job => some { job with kind := .reparse }
  | _ => none

inductive Working (job : Job κ) (row : List (Act α κ)) : Activity α κ → Prop where
  | works {activity : Activity α κ} {paths : List Path} (subjects : subjects? activity = some (.job job, paths))
      (silent : row.filterMap Act.calls? = []) (sound : panicked row = false) : Working job row activity
  | unwinds (path : Path) (silent : row.filterMap Act.calls? = []) (spoilt : panicked row = true) :
      Working job row (.unwind path)
  | calls (callback : κ) (own : job.callback = some callback) (once : row.filterMap Act.calls? = [callback])
      (sound : panicked row = false) : Working job row (.calling callback)

def Worked (job : Job κ) (row : List (Act α κ)) : Prop :=
  row.filterMap Act.calls? = if panicked row then [] else job.callback.toList

section Turns

variable {background : Bool} {store : Store α κ} {activity : Activity α κ} {choice : Choice α κ} {turn : Turn α κ}
  {job : Job κ} {paths : List Path} {warnings : List Warning}

def JobGoes (job : Job κ) (spoilt : Bool) (turn : Turn α κ) : Prop :=
  Leads turn (fun behind => spoilt = false ∧ (∃ paths, subjects? behind = some (.job job, paths)) ∨
      spoilt = true ∧ (∃ path, behind = .unwind path) ∨
      spoilt = false ∧ ∃ callback, job.callback = some callback ∧ behind = .calling callback)
    fun _ => spoilt = false ∧ job.callback = none

theorem jobGoes_afterBuild (built : Option Handle) :
    JobGoes job false ((Owner.job job).afterBuild store built warnings) := .inl ⟨rfl, _, rfl⟩

theorem jobGoes_afterRefresh : JobGoes job false ((Owner.job job).afterRefresh store warnings) := .inl ⟨rfl, _, rfl⟩

theorem jobGoes_afterPanic : JobGoes job true ((Owner.job job).afterPanic store : Turn α κ) := .inr (.inl ⟨rfl, _, rfl⟩)

theorem jobGoes_finish (built : Option Handle) : JobGoes job false ((Owner.job job).finish store built) := by
  cases called : job.callback with
  | none =>
    simp only [Owner.finish, called]
    exact ⟨rfl, called⟩
  | some callback =>
    simp only [Owner.finish, called]
    exact .inr (.inr ⟨rfl, callback, called, rfl⟩)

theorem jobGoes_of_turn (subjects : subjects? activity = some (.job job, paths))
    (chosen : turn? background store activity choice = some turn) : JobGoes job (panics choice) turn := by
  cases rule_of_turn chosen with
  | served | keep | noteFailure =>
    cases subjects
    exact jobGoes_afterBuild _
  | findNothing | noteReparse | evict =>
    cases subjects
    exact jobGoes_afterRefresh
  | settleAlone | settle =>
    cases subjects
    exact jobGoes_finish _
  | parsePanicked | refreshPanicked =>
    cases subjects
    exact jobGoes_afterPanic
  | askParse | askUse | awaitUnit => trivial
  | replaced | absent | dropReplaced | build | parsed | parseFailed | takeOver | find | refreshDone | refreshFailed
  | noteReparseFailed | noteReparseFailure =>
    cases subjects
    exact .inl ⟨rfl, _, rfl⟩
  | acquire handle use =>
    cases use <;> cases subjects
    exact .inl ⟨rfl, _, rfl⟩
  | _ => cases subjects

theorem Follows.owner {behind : Activity α κ} {owner : Owner κ} {others : List Path}
    (follows : Follows store activity behind) (subjects : subjects? behind = some (owner, others)) :
    (∃ paths, subjects? activity = some (owner, paths)) ∨ ∃ request, owner = .first request := by
  cases follows with
  | first request =>
    cases subjects
    exact .inr ⟨request, rfl⟩
  | settles known built =>
    cases subjects
    exact .inl ⟨_, known⟩
  | uses handle use =>
    cases use <;> cases subjects
    exact .inl ⟨_, rfl⟩
  | replaces | absent | replaced | asks | keeps | fails | takesOver | finds | notes | notesFailure | evicts =>
    cases subjects
    exact .inl ⟨_, rfl⟩
  | _ => cases subjects

theorem settled_of_calling {next : Store α κ} {callback : κ}
    (chosen : turn? background store activity choice = some (.next next (.calling callback) warnings)) :
    ∃ work built, activity = .settle (.job work) built ∧ work.callback = some callback ∧
      next.isParsing work.request.path = false := by
  have follows : Follows store activity (.calling callback) := follows_of_turn chosen
  cases follows with
  | calls work built _ called =>
    refine ⟨work, built, rfl, called, ?_⟩
    have rule := rule_of_turn chosen
    generalize same : Turn.next next (.calling callback) warnings = turn at rule
    cases rule with
    | settleAlone _ _ alone => cases alone
    | settle _ _ path owned kept =>
      cases owned
      simp only [Owner.finish, called] at same
      cases same
      exact congrArg View.marked (settle_served store work.request.path kept).2
    | takeOver => cases same

end Turns

section Acts

variable {job : Job κ} {row : List (Act α κ)} {act : Act α κ} {turn : Turn α κ}

theorem calls?_of_turned {callback : κ} (turned : act.turn? = some turn) (calls : act.calls? = some callback) :
    ∃ store warnings, turn = .next store (.calling callback) warnings := by
  unfold Act.calls? at calls
  rw [turned] at calls
  split at calls
  next goes =>
    cases goes
    cases calls
    exact ⟨_, _, rfl⟩
  next => cases calls

theorem filterMap_append_silent (silent : act.calls? = none) :
    (row ++ [act]).filterMap Act.calls? = row.filterMap Act.calls? := by
  simp [silent]

theorem panicked_append (row : List (Act α κ)) (act : Act α κ) :
    panicked (row ++ [act]) = (panicked row || panics act.choice) := by
  simp [panicked]

theorem Working.step (working : Working job row act.frame.activity) (turned : act.turn? = some turn) :
    Leads turn (Working job (row ++ [act])) (fun _ => Worked job (row ++ [act])) := by
  generalize activity : act.frame.activity = doing at working
  cases working with
  | works subjects silent sound =>
    rw [← activity] at subjects
    have goes := jobGoes_of_turn subjects turned
    have quiet (other : ∀ store callback warnings, turn ≠ .next store (.calling callback) warnings) :
        (row ++ [act]).filterMap Act.calls? = [] := by
      rw [filterMap_append_silent, silent]
      cases calls : act.calls? with
      | none => rfl
      | some callback =>
        obtain ⟨store, warnings, same⟩ := calls?_of_turned turned calls
        exact absurd same (other store callback warnings)
    cases turn with
    | next store behind warnings =>
      rcases goes with ⟨calm, paths, known⟩ | ⟨spoilt, path, rfl⟩ | ⟨calm, callback, own, rfl⟩
      · refine .works known (quiet ?_) (by rw [panicked_append, sound, calm]; rfl)
        rintro _ _ _ ⟨⟩
        cases known
      · exact .unwinds path (quiet (by rintro _ _ _ ⟨⟩)) (by rw [panicked_append, spoilt, Bool.or_true])
      · refine .calls callback own ?_ (by rw [panicked_append, sound, calm]; rfl)
        have calls : act.calls? = some callback := by rw [Act.calls?, turned]
        simp [silent, calls]
    | done store outcome warnings =>
      show Worked job _
      rw [Worked, quiet (by rintro _ _ _ ⟨⟩), panicked_append, sound, goes.1, goes.2]
      rfl
    | _ => trivial
  | unwinds path silent spoilt =>
    obtain ⟨background, store, ⟨number, task, _⟩, choice⟩ := act
    cases activity
    have rule : Rule background store (.unwind path) choice turn := rule_of_turn turned
    cases rule with
    | unwind =>
      show Worked job _
      rw [Worked, filterMap_append_silent rfl, silent, panicked_append, spoilt]
      rfl
  | calls callback own once sound =>
    obtain ⟨background, store, ⟨number, task, _⟩, choice⟩ := act
    cases activity
    have rule : Rule background store (.calling callback) choice turn := rule_of_turn turned
    cases rule with
    | call => trivial
    | returned _ failed =>
      show Worked job _
      rw [Worked, filterMap_append_silent rfl, once, panicked_append, sound, own]
      rfl

end Acts

/-- The mark of a path is not that of the frame of a number, but of a job that waits, of another frame, or of a job that
was thrown away. -/
inductive OwnedElsewhere (history : List (Moment α κ)) (system : System α κ) (number : Nat) (path : Path) : Prop where
  | waits (job : Job κ) (inside : job ∈ system.store.queue.jobs) (here : (job.request.path == path) = true)
  | frame (other : Frame α κ) (marked : Path) (inside : other ∈ system.frames) (apart : other.number ≠ number)
      (holds : other.holder?.map Prod.fst = some marked) (here : (marked == path) = true)
  | lost (job : Job κ) (left : (none, job) ∈ departed history) (here : (job.request.path == path) = true)

inductive Adding (job : Job κ) (row : List (Act α κ)) : Activity α κ → Prop where
  | parse (asked : Job κ) (same : { asked with kind := .parse } = job) (nothing : row.filterMap Act.enters? = []) :
      Adding job row (.admitParse asked .queued)
  | reparse (asked : Job κ) (same : { asked with kind := .reparse } = job) (nothing : row.filterMap Act.enters? = []) :
      Adding job row (.admitReparse asked .queued)
  | enqueues (nothing : row.filterMap Act.enters? = []) : Adding job row (.enqueue job .queued)
  | withdraws (path : Path) (nothing : row.filterMap Act.enters? = []) : Adding job row (.withdraw path .queued)

def Added (job : Job κ) (row : List (Act α κ)) (outcome : Outcome) : Prop :=
  ∀ accepted, outcome = .queued accepted → row.filterMap Act.enters? = if accepted then [job] else []

section Adds

variable {job : Job κ} {row : List (Act α κ)} {act : Act α κ} {turn : Turn α κ}

theorem added_nothing (nothing : row.filterMap Act.enters? = []) (idle : act.enters? = none) :
    (row ++ [act]).filterMap Act.enters? = [] := by
  rw [List.filterMap_append, nothing]
  simp [idle]

theorem added_refused (nothing : row.filterMap Act.enters? = []) (idle : act.enters? = none) :
    Added job (row ++ [act]) (.queued false) := by
  rintro _ ⟨⟩
  exact added_nothing nothing idle

theorem Adding.step (adding : Adding job row act.frame.activity) (turned : act.turn? = some turn) :
    Leads turn (Adding job (row ++ [act])) (Added job (row ++ [act])) := by
  obtain ⟨background, store, ⟨number, task, activity⟩, choice⟩ := act
  have rule : Rule background store activity choice turn := rule_of_turn turned
  cases adding with
  | parse asked same nothing =>
    cases rule with
    | present | record => exact added_refused nothing rfl
    | parse =>
      rw [same]
      exact .enqueues (added_nothing nothing rfl)
  | reparse asked same nothing =>
    cases rule with
    | spare => exact added_refused nothing rfl
    | reparse =>
      rw [same]
      exact .enqueues (added_nothing nothing rfl)
  | enqueues nothing =>
    cases rule with
    | accepted _ _ queued =>
      rintro _ ⟨⟩
      rw [List.filterMap_append, nothing]
      simp [Act.enters?, queued]
    | full _ _ queued | closed _ _ queued =>
      exact .withdraws _ (added_nothing nothing (by simp [Act.enters?, queued]))
    | awaitRoom => trivial
  | withdraws path nothing =>
    cases rule with
    | withdraw => exact added_refused nothing rfl

end Adds

def Task.adds? : Task κ → Option (Job κ)
  | .operation asked => asked.adds?
  | _ => none

def Queuing (row : List (Act α κ)) (task : Task κ) (activity : Activity α κ) : Prop :=
  match task.adds? with
  | some job => Adding job row activity
  | none => True

def Queued (row : List (Act α κ)) (task : Task κ) (outcome : Outcome) : Prop :=
  match task.adds? with
  | some job => Added job row outcome
  | none => True

def Running (row : List (Act α κ)) (task : Task κ) (activity : Activity α κ) : Prop :=
  match task with
  | .job job => Working job row activity
  | _ => True

def Ran (row : List (Act α κ)) (task : Task κ) (_ : Outcome) : Prop :=
  match task with
  | .job job => Worked job row
  | _ => True

section Runs

variable {flags : ParseFlags} {capacity : Nat} {roles : List Role} {history : List (Moment α κ)} {system : System α κ}

theorem subjects?_ofJob (job : Job κ) :
    ∃ paths, subjects? (Activity.ofJob job : Activity α κ) = some (.job job, paths) := by
  cases kind : job.kind <;> simp only [Activity.ofJob, kind] <;> exact ⟨_, rfl⟩

theorem Run.running (run : Run flags capacity roles history system) (number : Nat) (task : Task κ)
    (begun : (number, task) ∈ Interleaving.started history) : Fares Running Ran history system number task := by
  refine run.fares ?_ ?_ number task begun
  · intro task activity first
    cases first with
    | job job =>
      obtain ⟨paths, subjects⟩ := subjects?_ofJob (α := α) job
      exact .works subjects rfl rfl
    | _ => trivial
  · intro earlier before move act row turn run told turned kept
    generalize act.frame.task = task at kept ⊢
    cases task with
    | job job => exact Working.step kept turned
    | _ => exact leads_anywhere turn

theorem Run.owners (run : Run flags capacity roles history system) :
    ∀ frame ∈ system.frames, ∀ work paths, subjects? frame.activity = some (.job work, paths) →
      frame.task = .job work := by
  induction run with
  | start => simp [frames_start]
  | @move history system next move run made ih =>
    refine frames_of_move made ?_ ?_ ?_ ?_ ih
    · intro _ operation _ _ work paths subjects
      cases operation <;> cases subjects
    · intro job number work paths subjects
      obtain ⟨others, known⟩ := subjects?_ofJob (α := α) job
      rw [known] at subjects
      cases subjects
      rfl
    · intro _ _ _ subjects
      cases subjects
    · intro background choice frame turn store left kept chosen went work paths subjects
      cases turn <;> cases went
      rcases (follows_of_turn chosen).owner subjects with ⟨others, known⟩ | ⟨request, other⟩
      · exact kept work others known
      · cases other

/-- A callback is that of the job of its frame, which has just taken its mark off. -/
theorem Run.callback_own (run : Run flags capacity roles history system) {act : Act α κ}
    (inside : act ∈ allActs history) {callback : κ} (calls : act.calls? = some callback) :
    ∃ job next warnings, act.frame.task = .job job ∧ (some act.frame.number, job) ∈ Interleaving.departed history ∧
      job.callback = some callback ∧ act.turn? = some (.next next (.calling callback) warnings) ∧
      next.isParsing job.request.path = false := by
  obtain ⟨moment, among, told⟩ := List.mem_filterMap.mp inside
  obtain ⟨earlier, before⟩ := run.reached among
  cases turned : act.turn? with
  | none => simp [Act.calls?, turned] at calls
  | some turn =>
    obtain ⟨next, warnings, rfl⟩ := calls?_of_turned turned calls
    obtain ⟨work, built, activity, called, free⟩ := settled_of_calling turned
    have task : act.frame.task = .job work :=
      before.owners act.frame (act_inside told) work [] (by rw [activity]; rfl)
    have left : (some act.frame.number, work) ∈ Interleaving.departed history := by
      rw [← run.departed.1, ← task]
      exact run.started_of_act inside
    exact ⟨work, next, warnings, task, left, called, rfl, free⟩

theorem Run.discarded (run : Run flags capacity roles history system) (path : Path) :
    ∀ number, (number, .discarded) ∈ deeds path history →
      ∃ lost, (none, lost) ∈ Interleaving.departed history ∧ (lost.request.path == path) = true := by
  induction run with
  | start => exact fun _ inside => absurd inside List.not_mem_nil
  | @move history system next move run made ih =>
    intro number inside
    rw [deeds, List.filterMap_append] at inside
    rw [departed_append]
    rcases List.mem_append.mp inside with inside | inside
    · obtain ⟨lost, left, here⟩ := ih number inside
      exact ⟨lost, List.mem_append_left _ left, here⟩
    · obtain ⟨moment, same, told⟩ := List.mem_filterMap.mp inside
      rw [List.mem_singleton.mp same] at told
      by_cases discards : move = .discard
      · subst discards
        cases taken : system.store.dequeue with
        | none => simp [Moment.at?, Moment.note?, taken] at told
        | some pair =>
          refine ⟨pair.1, List.mem_append_right _ (by simp [Moment.departs?, taken]), ?_⟩
          simp only [Moment.at?, Moment.note?, taken, Option.map_some] at told
          cases same : pair.1.request.path == path with
          | true => rfl
          | false =>
            rw [onPath_apart _ same] at told
            cases told
      · obtain ⟨exchange⟩ := exchange_of_move run.sound.1 made discards
        exact absurd told (exchange.keeps_job path number)

theorem Run.queuing (run : Run flags capacity roles history system) (number : Nat) (task : Task κ)
    (begun : (number, task) ∈ Interleaving.started history) : Fares Queuing Queued history system number task := by
  refine run.fares ?_ ?_ number task begun
  · intro task activity first
    cases first with
    | operation operation =>
      cases operation with
      | addParse job => exact .parse job rfl rfl
      | addReparse job => exact .reparse job rfl rfl
      | _ => trivial
    | _ => trivial
  · intro earlier before move act row turn run told turned kept
    unfold Queuing Queued
    unfold Queuing at kept
    cases adds : act.frame.task.adds? with
    | none => exact leads_anywhere turn
    | some job =>
      rw [adds] at kept
      exact Adding.step kept turned

theorem entered_of_number (history : List (Moment α κ)) (number : Nat) :
    (entered history).filter (fun pair => pair.1 == number) =
      ((acts number history).filterMap Act.enters?).map (number, ·) := by
  rw [entered, acts, List.filter_filterMap, List.filterMap_filter, List.map_filterMap]
  congr 1
  funext act
  by_cases own : act.frame.number = number
  · cases enters : act.enters? <;> simp [own]
  · cases enters : act.enters? <;> simp [own]

/-- A marked path is owned, unless the job that owned it was thrown away. -/
theorem Run.owned_elsewhere (run : Run flags capacity roles history system) {frame : Frame α κ}
    (inside : frame ∈ system.frames) (free : frame.stake? = none) (path : Path)
    (marked : system.store.isParsing path = true) : OwnedElsewhere history system frame.number path := by
  by_cases lost : ∃ number, (number, Deed.discarded) ∈ deeds path history
  · obtain ⟨number, thrown⟩ := lost
    obtain ⟨job, left, here⟩ := run.discarded path number thrown
    exact .lost job left here
  · have owned : (system.phase? path).isSome = true := by
      rw [← (run.course path).marked_iff fun number thrown => lost ⟨number, thrown⟩]
      exact marked
    obtain ⟨phase, known⟩ := Option.isSome_iff_exists.mp owned
    obtain ⟨stake, told, here⟩ := List.mem_filterMap.mp (List.mem_of_mem_head? known)
    have same : (stake.1 == path) = true := by
      cases same : stake.1 == path with
      | true => rfl
      | false =>
        rw [onPath_apart _ same] at here
        cases here
    rcases List.mem_append.mp told with queued | held
    · obtain ⟨job, waits, rfl⟩ := List.mem_map.mp queued
      exact .waits job waits same
    · obtain ⟨other, there, stake?⟩ := List.mem_filterMap.mp held
      refine .frame other stake.1 there (fun equal => ?_) ?_ same
      · rw [run.frame_eq there inside equal, free] at stake?
        cases stake?
      · rw [holder?_path, stake?]
        rfl

end Runs

section Recovery

variable {system : System α κ} {index : Nat} {thread : Thread α κ} {frame : Frame α κ} {rest : List (Frame α κ)}
  {choice : Choice α κ}

theorem move?_of_turn {turn : Turn α κ} {store : Store α κ} {left : Option (Frame α κ)}
    (found : system.threads[index]? = some thread) (stack : thread.stack = frame :: rest)
    (chosen : turn? thread.background system.store frame.activity choice = some turn)
    (made : frame.after? turn = some (store, left)) :
    system.move? (.thread index choice) = some { system with
      store
      threads := system.threads.set index { thread with
        guards := if left.isNone then frame.kept.toList ++ thread.guards else thread.guards
        stack := left.toList ++ rest }
      clock := system.clock + 1 } := by
  cases choice with
  | call | release | take | tick => cases chosen
  | _ => simp [System.move?, found, Thread.act?, stack, chosen, made]

/-- A thread makes a move, and perhaps another one, and is rid of its frame; the queue stays as it is. -/
def Recovers (system : System α κ) (index : Nat) (choice : Choice α κ) (thread : Thread α κ) (rest : List (Frame α κ)) :
    Prop :=
  ∃ more history next, (more = [] ∨ more = [.thread index .proceed]) ∧
    system.follow (.thread index choice :: more) = some (history, next) ∧
    next.threads = system.threads.set index { thread with stack := rest } ∧ next.store.queue = system.store.queue

theorem follow_cons {first next last : System α κ} {move : Move α κ} {moves : List (Move α κ)}
    {later : List (Moment α κ)} (made : first.move? move = some next)
    (followed : next.follow moves = some (later, last)) :
    first.follow (move :: moves) = some (⟨first, move⟩ :: later, last) := by
  rw [System.follow, made]
  simp only [Option.bind_eq_bind, Option.bind_some, followed]

theorem recovers_at_once {store : Store α κ} {outcome : Outcome} {warnings : List Warning}
    (found : system.threads[index]? = some thread) (stack : thread.stack = frame :: rest)
    (chosen : turn? thread.background system.store frame.activity choice = some (.done store outcome warnings))
    (kept : frame.kept = none) (queue : store.queue = system.store.queue) :
    Recovers system index choice thread rest := by
  have made := move?_of_turn found stack chosen rfl
  refine ⟨[], _, _, .inl rfl, follow_cons made rfl, ?_, queue⟩
  simp [kept]

theorem recovers_unwinding {store : Store α κ} {owner : Owner κ}
    (found : system.threads[index]? = some thread) (stack : thread.stack = frame :: rest)
    (chosen : turn? thread.background system.store frame.activity choice = some (owner.afterPanic store))
    (kept : frame.kept = none) (queue : store.queue = system.store.queue) :
    Recovers system index choice thread rest := by
  cases owned : owner.path? with
  | none =>
    simp only [Owner.afterPanic, owned] at chosen
    exact recovers_at_once found stack chosen kept queue
  | some path =>
    simp only [Owner.afterPanic, owned] at chosen
    obtain ⟨middle, made, threads, same⟩ : ∃ middle, system.move? (.thread index choice) = some middle ∧
        middle.threads = system.threads.set index
          { thread with stack := { frame with activity := .unwind path } :: rest } ∧ middle.store = store :=
      ⟨_, move?_of_turn found stack chosen rfl, rfl, rfl⟩
    have again : middle.threads[index]? =
        some { thread with stack := { frame with activity := .unwind path } :: rest } := by
      rw [threads]
      exact List.getElem?_set_self (List.getElem?_eq_some_iff.mp found).1
    have unwinds : turn? thread.background middle.store (.unwind path : Activity α κ) .proceed =
        some (.done (middle.store.release path) .panicked []) := rfl
    have ends := move?_of_turn again rfl unwinds rfl
    refine ⟨[.thread index .proceed], _, _, .inr rfl, follow_cons made (follow_cons ends rfl), ?_, ?_⟩
    · simp [threads, Frame.kept]
    · rw [← queue, ← same]
      rfl

/-- A frame for which the engine or a callback panics is soon gone, and its thread goes on with what it did before. -/
theorem recovers_of_panic (found : system.threads[index]? = some thread) (stack : thread.stack = frame :: rest)
    (fails : panics choice = true ∨ choice = .returned true)
    (out : (turn? thread.background system.store frame.activity choice).isSome = true) :
    Recovers system index choice thread rest := by
  obtain ⟨turn, chosen⟩ := Option.isSome_iff_exists.mp out
  obtain ⟨number, task, activity⟩ := frame
  have rule : Rule thread.background system.store activity choice turn := rule_of_turn chosen
  cases rule with
  | parsePanicked | refreshPanicked => exact recovers_unwinding found stack rfl rfl rfl
  | reparsePanicked | queryPanicked | completePanicked | returned => exact recovers_at_once found stack rfl rfl rfl
  | _ => rcases fails with fails | fails <;> cases fails

end Recovery

/-- What becomes of the jobs of a run. -/
structure Orderly (history : List (Moment α κ)) (system : System α κ) : Prop where
  /-- Those that came into the queue have left it in their order, or wait in it still. -/
  in_turn : (entered history).map Prod.snd = (departed history).map Prod.snd ++ system.store.queue.jobs
  /-- Those that are run are those that have left it for a worker, each under a number of its own. -/
  runs : ∀ number job, (number, .job job) ∈ started history ↔ (some number, job) ∈ departed history
  told_apart : ((departed history).filterMap Prod.fst).Nodup
  /-- A call that is to queue a job has queued it once if it says so, and else not at all. -/
  added : ∀ number operation job accepted, (number, .operation operation) ∈ started history →
    operation.adds? = some job → outcome? number history = some (.queued accepted) →
    (entered history).filter (fun pair => pair.1 == number) = if accepted then [(number, job)] else []
  /-- The callback of a job that is run is called once, but not after a panic of the engine; until then the job is still
  at work. -/
  called : ∀ number job, (some number, job) ∈ departed history →
    (acts number history).filterMap Act.calls? = (if panicked (acts number history) then [] else job.callback.toList) ∨
      (acts number history).filterMap Act.calls? = [] ∧ outcome? number history = none ∧ number ∈ system.numbers
  /-- No other callback is ever called, and its path is free when it is. -/
  own : ∀ act ∈ allActs history, ∀ callback, act.calls? = some callback →
    ∃ job next warnings, (some act.frame.number, job) ∈ departed history ∧ job.callback = some callback ∧
      act.turn? = some (.next next (.calling callback) warnings) ∧ next.isParsing job.request.path = false
  /-- If the path is marked anew while a callback is called, somebody else owns the mark. -/
  elsewhere : ∀ frame ∈ system.frames, ∀ job callback, frame.task = .job job → frame.activity = .calling callback →
    system.store.isParsing job.request.path = true → OwnedElsewhere history system frame.number job.request.path
  /-- A worker that has nothing to do takes the job that waits longest. -/
  takes_next : system.stopping = false → ∀ index thread job rest, system.threads[index]? = some thread →
    thread.role = .worker → thread.stack = [] → system.store.queue.jobs = job :: rest →
    ∃ next, system.move? (.thread index .take) = some next ∧ next.store.queue.jobs = rest
  /-- After a panic a thread is soon back at what it did before. -/
  recovers : ∀ index thread frame rest choice, system.threads[index]? = some thread → thread.stack = frame :: rest →
    (panics choice = true ∨ choice = .returned true) →
    (turn? thread.background system.store frame.activity choice).isSome = true →
    Recovers system index choice thread rest

section Orderliness

variable {flags : ParseFlags} {capacity : Nat} {roles : List Role} {history : List (Moment α κ)} {system : System α κ}

theorem Run.takes_next (run : Run flags capacity roles history system) (alive : system.stopping = false) {index : Nat}
    {thread : Thread α κ} {job : Job κ} {rest : List (Job κ)} (found : system.threads[index]? = some thread)
    (role : thread.role = .worker) (idle : thread.stack = []) (waits : system.store.queue.jobs = job :: rest) :
    ∃ next, system.move? (.thread index .take) = some next ∧ next.store.queue.jobs = rest := by
  have isOpen := run.queue.2 alive
  refine ⟨_, by simp [System.move?, found, Thread.act?, role, idle, Store.dequeue, waits, isOpen]; rfl, rfl⟩

theorem Run.callbacks (run : Run flags capacity roles history system) {number : Nat} {job : Job κ}
    (left : (some number, job) ∈ Interleaving.departed history) :
    (acts number history).filterMap Act.calls? = (if panicked (acts number history) then [] else job.callback.toList) ∨
      (acts number history).filterMap Act.calls? = [] ∧ outcome? number history = none ∧ number ∈ system.numbers := by
  cases run.running number _ ((run.departed.1 number job).mpr left) with
  | finished _ _ _ ended => exact .inl ended
  | goes_on activity inside pending kept =>
    have working : Working job (acts number history) activity := kept
    cases working with
    | works _ silent => exact .inr ⟨silent, pending, List.mem_map_of_mem inside⟩
    | unwinds path silent spoilt =>
      rw [silent, spoilt]
      exact .inl rfl
    | calls callback own once sound =>
      rw [once, sound, own]
      exact .inl rfl

theorem Run.added (run : Run flags capacity roles history system) {number : Nat} {operation : Operation κ} {job : Job κ}
    {accepted : Bool} (begun : (number, .operation operation) ∈ Interleaving.started history)
    (adds : operation.adds? = some job) (returned : outcome? number history = some (.queued accepted)) :
    (entered history).filter (fun pair => pair.1 == number) = if accepted then [(number, job)] else [] := by
  rw [entered_of_number]
  cases run.queuing number _ begun with
  | goes_on _ _ pending =>
    rw [returned] at pending
    cases pending
  | finished _ outcome told ended =>
    rw [returned] at told
    cases told
    have known : (Task.operation operation).adds? = some job := adds
    rw [Queued, known] at ended
    rw [ended accepted rfl]
    cases accepted <;> rfl

/-- A job that is queued is queued once, and leaves the queue in its turn, for a worker or to be thrown away. Its
callback is called once when its work is done, with its mark taken off, unless the engine has panicked for it; a panic
keeps no worker from its next job. -/
theorem work_items_keep_their_turn (run : Run flags capacity roles history system) : Orderly history system where
  in_turn := run.in_turn
  runs := run.departed.1
  told_apart := run.departed.2
  added _ _ _ _ := run.added
  called _ _ := run.callbacks
  own act inside callback calls := by
    obtain ⟨job, next, warnings, _, left, called, turned, free⟩ := run.callback_own inside calls
    exact ⟨job, next, warnings, left, called, turned, free⟩
  elsewhere frame inside job callback _ activity marked :=
    run.owned_elsewhere inside (by rw [Frame.stake?, activity]) job.request.path marked
  takes_next alive _ _ _ _ := run.takes_next alive
  recovers _ _ _ _ _ := recovers_of_panic

end Orderliness

def callbackPanics : List (Move Unit Unit) :=
  [.thread 0 (.call (.addParse { request := ⟨⟨"a.c"⟩, [], none⟩, callback := some () })), .thread 0 .proceed,
    .thread 0 .proceed, .thread 1 .take, .thread 1 .proceed, .thread 1 .proceed,
    .thread 1 (.parsed (.error .unsavedFile)), .thread 1 .proceed, .thread 1 .proceed, .thread 1 (.returned true)]

theorem work_item_is_called_back_once :
    ∃ (history : List (Moment Unit Unit)) (system : System Unit Unit),
      Run ⟨0⟩ 1 [.client, .worker] history system ∧
      departed history = [(some 3, ⟨⟨⟨"a.c"⟩, [], none⟩, .parse, some ()⟩)] ∧ system.frames = [] ∧
      (acts 3 history).filterMap Act.calls? = [()] ∧ Orderly history system := by
  obtain ⟨history, system, run, checked⟩ := Run.of_follow ⟨0⟩ 1 [.client, .worker] callbackPanics
    (fun history system => departed history == [(some 3, ⟨⟨⟨"a.c"⟩, [], none⟩, .parse, some ()⟩)] &&
      (system.frames.isEmpty && (acts 3 history).filterMap Act.calls? == [()])) (by decide)
  simp only [Bool.and_eq_true, List.isEmpty_iff, beq_iff_eq] at checked
  obtain ⟨left, idle, once⟩ := checked
  exact ⟨history, system, run, left, idle, once, work_items_keep_their_turn run⟩

end UnitCache.Interleaving
