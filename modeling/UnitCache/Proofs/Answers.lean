import UnitCache.Proofs.Balance
import UnitCache.Proofs.Handles
import UnitCache.Proofs.Overtaking
/-!
How a call for a unit is answered. What other threads do between its acts does not matter to it: by what it finds at
each of them it goes one of a few ways, and each of them ends with the answer that belongs to it.
-/
namespace UnitCache.Interleaving

variable {α κ : Type}

def Act.fromEngine (act : Act α κ) : Bool :=
  match act.choice with
  | .parsed _ | .reparsed _ | .completed .. => true
  | _ => false

def behind? : Turn α κ → Option (Store α κ)
  | .next store .. | .done store .. => some store
  | _ => none

def Act.next? (act : Act α κ) : Option (Store α κ) := act.turn?.bind behind?

/-- An act that does an activity, how it finds a path and how it leaves it. -/
structure Act.Does (act : Act α κ) (activity : Activity α κ) (path : Path) (held left : View) : Prop where
  activity : act.frame.activity = activity
  held : view act.store path = held
  left : ∃ next, act.next? = some next ∧ view next path = left

structure Asked (request : Request) (answer : Answer α) (row : List (Act α κ)) : Prop where
  once : ∃ parse owner, row.filter Act.fromEngine = [parse] ∧ parse.frame.activity = .parsing request owner ∧
    parse.choice = .parsed answer

/-- Why a call that looks for a unit comes back without one. -/
inductive Missed (request : Request) (row : List (Act α κ)) : Prop where
  /-- There was no unit, and the path was marked; so the request was put down at once, and the engine not asked. -/
  | recorded (look : Act α κ) (rest : List (Act α κ)) (held : View) (acts : row = look :: rest)
      (absent : held.entry = none) (marked : held.marked = true)
      (looks : look.Does (.lookUp request) request.path held { held with pending := some request })
      (silent : row.filter Act.fromEngine = [])
  | failed (look : Act α κ) (rest : List (Act α κ)) (held left : View) (error : Error) (acts : row = look :: rest)
      (absent : held.entry = none) (looks : look.Does (.lookUp request) request.path held left)
      (asked : Asked request (.error error) row)

/-- How a call that looks for a unit comes to one that serves it. -/
inductive Served (request : Request) (handle : Handle) (row : List (Act α κ)) : Prop where
  | found (look : Act α κ) (rest : List (Act α κ)) (held : View) (acts : row = look :: rest)
      (there : held.entry = some handle) (looks : look.Does (.lookUp request) request.path held held)
      (silent : row.filter Act.fromEngine = [])
  /-- There was no unit; it had the engine build the unit for its own request, and put it into the cache. -/
  | built (look : Act α κ) (rest : List (Act α κ)) (held left : View) (artifact : α) (keep : Act α κ) (owner : Owner κ)
      (was : View) (acts : row = look :: rest) (absent : held.entry = none)
      (looks : look.Does (.lookUp request) request.path held left) (asked : Asked request (.ok artifact) row)
      (own : handle.request = request) (inside : keep ∈ row)
      (keeps : keep.Does (.keep request artifact owner) request.path was { was with entry := some handle })

inductive Submitted (request : Request) : List (Act α κ) → Prop where
  | queued (submit : Act α κ) (next : Store α κ) (giving : Giving)
      (submits : submit.frame.activity = .enqueue { request } giving) (made : submit.next? = some next)
      (last : next.queue.jobs = submit.store.queue.jobs ++ [⟨request, .parse, none⟩]) : Submitted request [submit]
  | refused (submit withdraw : Act α κ) (next : Store α κ) (giving : Giving) (held : View)
      (submits : submit.frame.activity = .enqueue { request } giving) (made : submit.next? = some next)
      (same : next.queue = submit.store.queue)
      (withdraws : withdraw.Does (.withdraw request.path giving) request.path held
        { held with marked := false, pending := none }) : Submitted request [submit, withdraw]

/-- What a call does for its request once it has taken out a unit that was built otherwise: there is a unit again; or
the path is marked and the request put down; or it marks the path itself and submits a job. -/
inductive Readmitted (request : Request) : List (Act α κ) → Prop where
  | present (again : Act α κ) (giving : Giving) (held : View) (there : held.entry.isSome = true)
      (admits : again.Does (.admitParse { request } giving) request.path held held) : Readmitted request [again]
  | recorded (again : Act α κ) (giving : Giving) (held : View) (absent : held.entry = none)
      (marked : held.marked = true)
      (admits : again.Does (.admitParse { request } giving) request.path held { held with pending := some request }) :
      Readmitted request [again]
  | submitted (again : Act α κ) (giving : Giving) (held : View) (rest : List (Act α κ)) (absent : held.entry = none)
      (free : held.marked = false)
      (admits : again.Does (.admitParse { request } giving) request.path held { held with marked := true })
      (submitted : Submitted request rest) : Readmitted request (again :: rest)

/-- A call that comes to a unit which was built otherwise: it has taken that unit out itself, and does not ask the
engine but leaves its request to others. -/
structure HandedBack (request : Request) (handle : Handle) (row : List (Act α κ)) : Prop where
  ways : ∃ look drop rest held, row = look :: drop :: rest ∧ held.entry = some handle ∧
    look.Does (.lookUp request) request.path held { held with entry := none } ∧
    drop.frame.activity = .dropStale request handle ∧ Readmitted request rest
  silent : row.filter Act.fromEngine = []

def Answered (request : Request) (row : List (Act α κ)) : Option Handle → Prop
  | none => Missed request row
  | some handle => (handle.request.path == request.path) = true ∧
    (handle.request.serves request = true → Served request handle row) ∧
    (handle.request.serves request = false → HandedBack request handle row)

def ComesFirst (request : Request) (look : Act α κ) : Prop :=
  look.fromEngine = false ∧ ∃ held, held.entry = none ∧
    look.Does (.lookUp request) request.path held { held with marked := true }

structure TakesOut (request : Request) (handle : Handle) (look : Act α κ) : Prop where
  quiet : look.fromEngine = false
  looks : ∃ held, held.entry = some handle ∧
    look.Does (.lookUp request) request.path held { held with entry := none }
  stale : handle.request.serves request = false
  own : (handle.request.path == request.path) = true

inductive Resubmits (request : Request) (handle : Handle) : List (Act α κ) → Prop where
  | mk (look drop again : Act α κ) (giving : Giving) (held : View) (takes : TakesOut request handle look)
      (drops : drop.frame.activity = .dropStale request handle)
      (quiet : drop.fromEngine = false ∧ again.fromEngine = false) (absent : held.entry = none)
      (free : held.marked = false)
      (admits : again.Does (.admitParse { request } giving) request.path held { held with marked := true }) :
      Resubmits request handle [look, drop, again]

/-- How far a call for a unit is, by what it has done. -/
inductive Stage (request : Request) : List (Act α κ) → Activity α κ → Prop where
  | begun : Stage request [] (.lookUp request)
  | drops {look : Act α κ} {handle : Handle} (takes : TakesOut request handle look) :
      Stage request [look] (.dropStale request handle)
  | admits {look drop : Act α κ} {handle : Handle} (takes : TakesOut request handle look)
      (drops : drop.frame.activity = .dropStale request handle) (quiet : drop.fromEngine = false) :
      Stage request [look, drop] (.admitParse { request } (.unit (some handle)))
  | submits {row : List (Act α κ)} {handle : Handle} (resubmits : Resubmits request handle row) :
      Stage request row (.enqueue { request } (.unit (some handle)))
  | withdraws {row : List (Act α κ)} {submit : Act α κ} {next : Store α κ} {handle : Handle}
      (resubmits : Resubmits request handle row) (quiet : submit.fromEngine = false)
      (submits : submit.frame.activity = .enqueue { request } (.unit (some handle))) (made : submit.next? = some next)
      (same : next.queue = submit.store.queue) :
      Stage request (row ++ [submit]) (.withdraw request.path (.unit (some handle)))
  | builds {look : Act α κ} (first : ComesFirst request look) : Stage request [look] (.build request (.first request))
  | parses {look build : Act α κ} (first : ComesFirst request look) (quiet : build.fromEngine = false) :
      Stage request [look, build] (.parsing request (.first request))
  | keeps {look build parse : Act α κ} {artifact : α} (first : ComesFirst request look)
      (asked : Asked request (.ok artifact) [look, build, parse]) :
      Stage request [look, build, parse] (.keep request artifact (.first request))
  | fails {look build parse : Act α κ} {error : Error} (first : ComesFirst request look)
      (asked : Asked request (.error error) [look, build, parse]) :
      Stage request [look, build, parse] (.noteFailure request error (.first request))
  /-- It has its answer, and leaves to a job what others have asked for meanwhile. -/
  | parts {row : List (Act α κ)} {built : Option Handle} {activity : Activity α κ}
      (answered : Answered request row built) (own : ∀ handle ∈ built, handle.request = request)
      (parts : activity = .settle (.first request) built ∨
        (∃ next, activity = .enqueue { request := next } (.unit built)) ∨
        ∃ path, activity = .withdraw path (.unit built)) : Stage request row activity
  | unwinds {row : List (Act α κ)} (path : Path) : Stage request row (.unwind path)

def Stage.Ends (request : Request) (row : List (Act α κ)) : Outcome → Prop
  | .unit result => Answered request row result
  | _ => True

section Rows

variable {request : Request} {row : List (Act α κ)} {act : Act α κ}

theorem Act.Does.of_turned {turn : Turn α κ} {next : Store α κ} {path : Path} {left : View}
    (turned : act.turn? = some turn) (goes : behind? turn = some next) (leaves : view next path = left) :
    act.Does act.frame.activity path (view act.store path) left :=
  ⟨rfl, rfl, next, by rw [Act.next?, turned]; exact goes, leaves⟩

@[simp]
theorem fromEngine_proceed (background : Bool) (store : Store α κ) (frame : Frame α κ) :
    Act.fromEngine ⟨background, store, frame, .proceed⟩ = false := rfl

theorem filter_append_quiet (quiet : act.fromEngine = false) :
    (row ++ [act]).filter Act.fromEngine = row.filter Act.fromEngine := by
  simp [quiet]

theorem Asked.append {answer : Answer α} (asked : Asked request answer row) (quiet : act.fromEngine = false) :
    Asked request answer (row ++ [act]) := by
  obtain ⟨parse, owner, alone, rest⟩ := asked
  exact ⟨parse, owner, (filter_append_quiet quiet).trans alone, rest⟩

theorem Missed.append (missed : Missed request row) (quiet : act.fromEngine = false) :
    Missed request (row ++ [act]) := by
  cases missed with
  | recorded look rest held acts absent marked looks silent =>
    exact .recorded look (rest ++ [act]) held (by rw [acts]; rfl) absent marked looks
      ((filter_append_quiet quiet).trans silent)
  | failed look rest held left error acts absent looks asked =>
    exact .failed look (rest ++ [act]) held left error (by rw [acts]; rfl) absent looks (asked.append quiet)

theorem Served.append {handle : Handle} (served : Served request handle row) (quiet : act.fromEngine = false) :
    Served request handle (row ++ [act]) := by
  cases served with
  | found look rest held acts there looks silent =>
    exact .found look (rest ++ [act]) held (by rw [acts]; rfl) there looks ((filter_append_quiet quiet).trans silent)
  | built look rest held left artifact keep owner was acts absent looks asked own inside keeps =>
    exact .built look (rest ++ [act]) held left artifact keep owner was (by rw [acts]; rfl) absent looks
      (asked.append quiet) own (List.mem_append_left _ inside) keeps

/-- A call that has what it wants does nothing more about it. -/
theorem Answered.append {built : Option Handle} (answered : Answered request row built)
    (own : ∀ handle ∈ built, handle.request = request) (quiet : act.fromEngine = false) :
    Answered request (row ++ [act]) built := by
  cases built with
  | none => exact Missed.append answered quiet
  | some handle =>
    obtain ⟨path, served, _⟩ := answered
    refine ⟨path, fun serves => (served serves).append quiet, fun stale => ?_⟩
    rw [own handle rfl, serves_self] at stale
    cases stale

end Rows

section Steps

variable {request : Request} {row : List (Act α κ)} {act : Act α κ} {turn : Turn α κ}

theorem Stage.lookUp (keyed : Keyed act.store) (activity : act.frame.activity = .lookUp request)
    (turned : act.turn? = some turn) : Leads turn (Stage request [act]) (Stage.Ends request [act]) := by
  obtain ⟨background, store, ⟨number, task, _⟩, choice⟩ := act
  cases activity
  have rule : Rule background store (.lookUp request) choice turn := rule_of_turn turned
  cases rule with
  | hit _ handle found serves =>
    refine ⟨keyed.units _ _ found, fun _ => ?_, fun unfit => ?_⟩
    · exact .found _ [] (view store request.path) rfl found (.of_turned turned rfl rfl) rfl
    · rw [serves] at unfit
      cases unfit
  | stale _ handle found unfit =>
    refine .drops ⟨rfl, ⟨view store request.path, found, .of_turned turned rfl ?_⟩, unfit, keyed.units _ _ found⟩
    rw [view_evict, if_pos BEq.rfl]
  | busy _ absent marked =>
    refine .recorded _ [] (view store request.path) rfl absent marked (.of_turned turned rfl ?_) rfl
    rw [view_record, if_pos BEq.rfl]
  | first _ absent =>
    refine .builds ⟨rfl, view store request.path, absent, .of_turned turned rfl ?_⟩
    rw [view_mark, if_pos BEq.rfl]

theorem Stage.comesBack {look drop : Act α κ} {handle : Handle} (takes : TakesOut request handle look)
    (drops : drop.frame.activity = .dropStale request handle) (quiet : drop.fromEngine = false)
    (activity : act.frame.activity = .admitParse { request } (.unit (some handle))) (turned : act.turn? = some turn) :
    Leads turn (Stage request [look, drop, act]) (Stage.Ends request [look, drop, act]) := by
  obtain ⟨held, there, looks⟩ := takes.looks
  have answered (readmitted : Readmitted request [act]) (silent : act.fromEngine = false) :
      Answered request [look, drop, act] (some handle) := by
    refine ⟨takes.own, fun serves => ?_, fun _ => ⟨⟨look, drop, _, held, rfl, there, looks, drops, readmitted⟩, ?_⟩⟩
    · rw [takes.stale] at serves
      cases serves
    · simp [takes.quiet, quiet, silent]
  obtain ⟨background, store, ⟨number, task, _⟩, choice⟩ := act
  cases activity
  have rule : Rule background store (.admitParse { request } (.unit (some handle))) choice turn := rule_of_turn turned
  cases rule with
  | present _ _ _ found =>
    exact answered (.present _ _ (view store request.path) (Option.isSome_of_eq_some found)
      (.of_turned turned rfl rfl)) rfl
  | record _ _ absent marked =>
    refine answered (.recorded _ _ (view store request.path) absent marked (.of_turned turned rfl ?_)) rfl
    rw [view_record, if_pos BEq.rfl]
  | parse _ _ absent free =>
    refine .submits (.mk look drop _ _ (view store request.path) takes drops ⟨quiet, rfl⟩ absent free
      (.of_turned turned rfl ?_))
    rw [view_mark, if_pos BEq.rfl]

/-- Whatever becomes of its job, the call gives back what it has taken out. -/
theorem Resubmits.answered {handle : Handle} {rest : List (Act α κ)} (resubmits : Resubmits request handle row)
    (submitted : Submitted request rest) (silent : rest.filter Act.fromEngine = []) :
    Answered request (row ++ rest) (some handle) := by
  cases resubmits with
  | mk look drop again giving before takes drops quiet absent free admits =>
    obtain ⟨held, there, looks⟩ := takes.looks
    refine ⟨takes.own, fun serves => ?_, fun _ => ⟨⟨look, drop, again :: rest, held, rfl, there, looks, drops, ?_⟩, ?_⟩⟩
    · rw [takes.stale] at serves
      cases serves
    · exact .submitted again giving before rest absent free admits submitted
    · simp [takes.quiet, quiet, silent]

theorem Stage.submit {handle : Handle} (resubmits : Resubmits request handle row)
    (activity : act.frame.activity = .enqueue { request } (.unit (some handle))) (turned : act.turn? = some turn) :
    Leads turn (Stage request (row ++ [act])) (Stage.Ends request (row ++ [act])) := by
  have next {after : Store α κ} (goes : behind? turn = some after) : act.next? = some after := by
    rw [Act.next?, turned]
    exact goes
  obtain ⟨background, store, ⟨number, task, _⟩, choice⟩ := act
  cases activity
  have rule : Rule background store (.enqueue { request } (.unit (some handle))) choice turn := rule_of_turn turned
  cases rule with
  | accepted => exact resubmits.answered (.queued _ _ (.unit (some handle)) rfl (next rfl) rfl) rfl
  | full | closed => exact .withdraws resubmits rfl rfl (next rfl) rfl
  | awaitRoom => trivial

theorem Stage.withdraw {submit : Act α κ} {next : Store α κ} {handle : Handle}
    (resubmits : Resubmits request handle row) (quiet : submit.fromEngine = false)
    (submits : submit.frame.activity = .enqueue { request } (.unit (some handle))) (made : submit.next? = some next)
    (same : next.queue = submit.store.queue)
    (activity : act.frame.activity = .withdraw request.path (.unit (some handle))) (turned : act.turn? = some turn) :
    Leads turn (Stage request (row ++ [submit] ++ [act])) (Stage.Ends request (row ++ [submit] ++ [act])) := by
  obtain ⟨background, store, ⟨number, task, _⟩, choice⟩ := act
  cases activity
  have rule : Rule background store (.withdraw request.path (.unit (some handle))) choice turn := rule_of_turn turned
  cases rule with
  | withdraw =>
    have withdraws := Act.Does.of_turned turned rfl (view_release store request.path request.path)
    rw [if_pos BEq.rfl] at withdraws
    rw [List.append_assoc]
    exact resubmits.answered (.refused submit _ next _ _ submits made same withdraws) (by simp [quiet])

theorem Stage.parse {look build : Act α κ} (first : ComesFirst request look) (quiet : build.fromEngine = false)
    (activity : act.frame.activity = .parsing request (.first request)) (turned : act.turn? = some turn) :
    Leads turn (Stage request [look, build, act]) (Stage.Ends request [look, build, act]) := by
  have asked {answer : Answer α} (chosen : act.choice = .parsed answer) :
      Asked request answer [look, build, act] := by
    have speaks : act.fromEngine = true := by rw [Act.fromEngine, chosen]
    exact ⟨⟨act, .first request, by simp [first.1, quiet, speaks], activity, chosen⟩⟩
  obtain ⟨background, store, ⟨number, task, _⟩, choice⟩ := act
  cases activity
  have rule : Rule background store (.parsing request (.first request)) choice turn := rule_of_turn turned
  cases rule with
  | askParse => trivial
  | parsed => exact .keeps first (asked rfl)
  | parseFailed => exact .fails first (asked rfl)
  | parsePanicked => exact .unwinds request.path

theorem Stage.keep {look build parse : Act α κ} {artifact : α} (first : ComesFirst request look)
    (asked : Asked request (.ok artifact) [look, build, parse])
    (activity : act.frame.activity = .keep request artifact (.first request)) (turned : act.turn? = some turn) :
    Leads turn (Stage request [look, build, parse, act]) (Stage.Ends request [look, build, parse, act]) := by
  obtain ⟨background, store, ⟨number, task, _⟩, choice⟩ := act
  cases activity
  have rule : Rule background store (.keep request artifact (.first request)) choice turn := rule_of_turn turned
  cases rule with
  | keep =>
    have keeps := Act.Does.of_turned turned rfl (view_keep store request artifact request.path)
    rw [if_pos BEq.rfl] at keeps
    obtain ⟨held, absent, looks⟩ := first.2
    have answered : Answered request [look, build, parse, ⟨background, store,
        (⟨number, task, .keep request artifact (.first request)⟩ : Frame α κ), .proceed⟩]
        (some (store.keep request artifact).1) := by
      refine ⟨BEq.rfl, fun _ => ?_, fun stale => ?_⟩
      · exact .built look _ held _ artifact _ (.first request) (view store request.path) rfl absent looks
          (asked.append rfl) rfl (List.mem_append_right [look, build, parse] (List.mem_singleton.mpr rfl)) keeps
      · rw [Store.keep, serves_self] at stale
        cases stale
    exact .parts answered (by rintro _ ⟨⟩; rfl) (.inl rfl)

theorem Stage.part {built : Option Handle} (answered : Answered request row built)
    (own : ∀ handle ∈ built, handle.request = request)
    (parts : act.frame.activity = .settle (.first request) built ∨
      (∃ next, act.frame.activity = .enqueue { request := next } (.unit built)) ∨
      ∃ path, act.frame.activity = .withdraw path (.unit built)) (turned : act.turn? = some turn) :
    Leads turn (Stage request (row ++ [act])) (Stage.Ends request (row ++ [act])) := by
  obtain ⟨background, store, ⟨number, task, _⟩, choice⟩ := act
  rcases parts with activity | ⟨next, activity⟩ | ⟨path, activity⟩ <;> cases activity
  · have rule : Rule background store (.settle (.first request) built) choice turn := rule_of_turn turned
    cases rule with
    | settleAlone _ _ alone => cases alone
    | settle => exact answered.append own rfl
    | takeOver _ _ _ next => exact .parts (answered.append own rfl) own (.inr (.inl ⟨next, rfl⟩))
  · have rule : Rule background store (.enqueue { request := next } (.unit built)) choice turn := rule_of_turn turned
    cases rule with
    | accepted => exact answered.append own rfl
    | full | closed => exact .parts (answered.append own rfl) own (.inr (.inr ⟨_, rfl⟩))
    | awaitRoom => trivial
  · have rule : Rule background store (.withdraw path (.unit built)) choice turn := rule_of_turn turned
    cases rule with
    | withdraw => exact answered.append own rfl

theorem Stage.fail {look build parse : Act α κ} {error : Error} (first : ComesFirst request look)
    (asked : Asked request (.error error) [look, build, parse])
    (activity : act.frame.activity = .noteFailure request error (.first request)) (turned : act.turn? = some turn) :
    Leads turn (Stage request [look, build, parse, act]) (Stage.Ends request [look, build, parse, act]) := by
  obtain ⟨held, absent, looks⟩ := first.2
  have missed (silent : act.fromEngine = false) : Answered request ([look, build, parse] ++ [act]) none :=
    Missed.failed look _ held _ error rfl absent looks (asked.append silent)
  obtain ⟨background, store, ⟨number, task, _⟩, choice⟩ := act
  cases activity
  have rule : Rule background store (.noteFailure request error (.first request)) choice turn := rule_of_turn turned
  cases rule with
  | noteFailure => exact .parts (missed rfl) (by rintro _ ⟨⟩) (.inl rfl)

/-- Each act takes a call from one stage to the next, or to its end. -/
theorem Stage.step (keyed : Keyed act.store) (stage : Stage request row act.frame.activity)
    (turned : act.turn? = some turn) :
    Leads turn (Stage request (row ++ [act])) (Stage.Ends request (row ++ [act])) := by
  have rule : Rule act.background act.store act.frame.activity act.choice turn := rule_of_turn turned
  have silent (chosen : act.choice = .proceed) : act.fromEngine = false := by rw [Act.fromEngine, chosen]
  generalize activity : act.frame.activity = doing at stage rule
  generalize chosen : act.choice = choice at rule
  cases stage with
  | begun => exact Stage.lookUp keyed activity turned
  | drops takes =>
    cases rule with
    | dropStale => exact .admits takes activity (silent chosen)
  | admits takes drops quiet => exact Stage.comesBack takes drops quiet activity turned
  | submits resubmits => exact Stage.submit resubmits activity turned
  | withdraws resubmits quiet submits made same =>
    exact Stage.withdraw resubmits quiet submits made same activity turned
  | builds first =>
    cases rule with
    | build => exact .parses first (silent chosen)
  | parses first quiet => exact Stage.parse first quiet activity turned
  | keeps first asked => exact Stage.keep first asked activity turned
  | fails first asked => exact Stage.fail first asked activity turned
  | parts answered own parts => exact Stage.part answered own (by rwa [activity]) turned
  | unwinds path =>
    cases rule with
    | unwind => trivial

end Steps

def Calling (row : List (Act α κ)) (task : Task κ) (activity : Activity α κ) : Prop :=
  match task with
  | .operation (.getUnit request) => Stage request row activity
  | _ => True

def Called (row : List (Act α κ)) (task : Task κ) (outcome : Outcome) : Prop :=
  match task with
  | .operation (.getUnit request) => Stage.Ends request row outcome
  | _ => True

section Runs

variable {flags : ParseFlags} {capacity : Nat} {roles : List Role} {history : List (Moment α κ)} {system : System α κ}

theorem Run.calling (run : Run flags capacity roles history system) (number : Nat) (task : Task κ)
    (begun : (number, task) ∈ Interleaving.started history) : Fares Calling Called history system number task := by
  refine run.fares ?_ ?_ number task begun
  · intro task activity first
    cases first with
    | operation operation =>
      cases operation with
      | getUnit request => exact .begun
      | _ => trivial
    | _ => trivial
  · intro earlier before move act row turn run told turned kept
    generalize act.frame.task = task at kept ⊢
    cases task with
    | operation operation =>
      cases operation with
      | getUnit request => exact Stage.step (run.keyed_of_act told) kept turned
      | _ => exact leads_anywhere turn
    | _ => exact leads_anywhere turn

theorem Run.answered (run : Run flags capacity roles history system) {number : Nat} {request : Request}
    {result : Option Handle} (called : (number, .operation (.getUnit request)) ∈ Interleaving.started history)
    (returned : outcome? number history = some (.unit result)) : Answered request (acts number history) result := by
  cases run.calling number _ called with
  | goes_on _ _ pending =>
    rw [returned] at pending
    cases pending
  | finished _ outcome told ended =>
    rw [returned] at told
    cases told
    exact ended

/-- A unit that was built otherwise comes back from the call that has taken it out. -/
theorem HandedBack.takenOut {number : Nat} {request : Request} {handle : Handle}
    (back : HandedBack request handle (acts number history)) (stale : handle.request.serves request = false) :
    (handle.number, number) ∈ takenOut history := by
  obtain ⟨look, drop, rest, held, row, there, looks, _⟩ := back.ways
  have inside : look ∈ acts number history := by
    rw [row]
    exact List.mem_cons_self
  obtain ⟨among, own⟩ := List.mem_filter.mp inside
  refine List.mem_filterMap.mpr ⟨look, among, ?_⟩
  have found : look.store.peek request.path = some handle := by
    rw [← there, ← looks.held]
    rfl
  simp only [Act.takesOut?, looks.activity, Store.lookUp, found, stale, eq_of_beq own]
  rfl

/-- A call for a unit that comes back without one had met no unit, and either its request was put down at once since the
path was marked, or the engine was asked for it once and failed. One that comes back with a unit which serves it had met
that unit, or had it built for itself, once. And one that comes back with a unit built otherwise has taken that unit
out itself, as no other call does, and has left its request to whoever has the path, or to a job. -/
theorem unit_calls_are_answered (run : Run flags capacity roles history system) {number : Nat} {request : Request}
    {result : Option Handle} (called : (number, .operation (.getUnit request)) ∈ started history)
    (returned : outcome? number history = some (.unit result)) :
    (result = none → Missed request (acts number history)) ∧
    ∀ handle, result = some handle → (handle.request.path == request.path) = true ∧
      (handle.request.serves request = true → Served request handle (acts number history)) ∧
      (handle.request.serves request = false → HandedBack request handle (acts number history) ∧
        ∀ other wanted back, (other, .operation (.getUnit wanted)) ∈ started history →
          outcome? other history = some (.unit (some back)) → back.number = handle.number →
          back.request.serves wanted = false → other = number) := by
  have answered := run.answered called returned
  refine ⟨?_, ?_⟩
  · rintro rfl
    exact answered
  · rintro handle rfl
    obtain ⟨path, served, handed⟩ := answered
    refine ⟨path, served, fun stale => ⟨handed stale, ?_⟩⟩
    intro other wanted back also came same unfit
    have taken := (handed stale).takenOut stale
    have taken_too := ((run.answered also came).2.2 unfit).takenOut unfit
    rw [same] at taken_too
    exact run.taken_once taken_too taken

end Runs

def beganCall (history : List (Moment α κ)) (number : Nat) (request : Request) : Bool :=
  (started history).any fun pair =>
    match pair.2 with
    | .operation (.getUnit wanted) => pair.1 == number && wanted == request
    | _ => false

theorem started_of_began {history : List (Moment α κ)} {number : Nat} {request : Request}
    (began : beganCall history number request = true) : (number, .operation (.getUnit request)) ∈ started history := by
  obtain ⟨⟨first, task⟩, inside, same⟩ := List.any_eq_true.mp began
  dsimp only at same
  split at same
  next wanted =>
    simp only [Bool.and_eq_true, beq_iff_eq] at same
    rwa [← same.1, ← same.2]
  next => cases same

def cameBack (history : List (Moment α κ)) (number : Nat) (handle : Handle) : Bool :=
  match outcome? number history with
  | some (.unit (some back)) => back == handle
  | _ => false

theorem outcome_of_cameBack {history : List (Moment α κ)} {number : Nat} {handle : Handle}
    (came : cameBack history number handle = true) : outcome? number history = some (.unit (some handle)) := by
  unfold cameBack at came
  split at came
  next back told => rw [told, eq_of_beq came]
  next => cases came

theorem unit_built_otherwise_is_handed_back :
    ∃ (history : List (Moment Unit Unit)) (system : System Unit Unit),
      Run ⟨0⟩ 1 [.client, .worker] history system ∧
      (6, .operation (.getUnit ⟨⟨"a.c"⟩, ["-O3"], none⟩)) ∈ started history ∧
      outcome? 6 history = some (.unit (some ⟨0, ⟨⟨"a.c"⟩, ["-O2"], none⟩⟩)) ∧
      HandedBack ⟨⟨"a.c"⟩, ["-O3"], none⟩ ⟨0, ⟨⟨"a.c"⟩, ["-O2"], none⟩⟩ (acts 6 history) ∧
      ∀ other wanted back, (other, .operation (.getUnit wanted)) ∈ started history →
        outcome? other history = some (.unit (some back)) → back.number = 0 →
        back.request.serves wanted = false → other = 6 := by
  obtain ⟨history, system, run, checked⟩ := Run.of_follow ⟨0⟩ 1 [.client, .worker] (spoiltTwice.take 11)
    (fun history _ => beganCall history 6 ⟨⟨"a.c"⟩, ["-O3"], none⟩ &&
      cameBack history 6 ⟨0, ⟨⟨"a.c"⟩, ["-O2"], none⟩⟩) (by decide)
  rw [Bool.and_eq_true] at checked
  have called := started_of_began checked.1
  have returned := outcome_of_cameBack checked.2
  exact ⟨history, system, run, called, returned,
    ((unit_calls_are_answered run called returned).2 _ rfl).2.2 (by decide)⟩

end UnitCache.Interleaving
