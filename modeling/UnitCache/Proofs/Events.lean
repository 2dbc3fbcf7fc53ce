import UnitCache.Proofs.Doubles
/-!
What is done for one path in the course of a run: what is called or begun for it and what comes of that, which calls
the engine answers for it, and what the cache then holds for it. Its units are numbered as they are made for it, so that
none of this tells whether there are units of other paths.
-/
namespace UnitCache.Interleaving

variable {α κ : Type}

def Operation.renumber (number : Nat → Nat) : Operation κ → Operation κ
  | .hold handle => .hold (handle.renumber number)
  | .reparse handle flags => .reparse (handle.renumber number) flags
  | .completeIn handle line column flags => .completeIn (handle.renumber number) line column flags
  | operation => operation

def Task.renumber (number : Nat → Nat) : Task κ → Task κ
  | .operation called => .operation (called.renumber number)
  | task => task

def Task.activity : Task κ → Activity α κ
  | .operation called => called.activity
  | .job work => .ofJob work
  | .tick => .collect

inductive Event (α κ : Type) where
  /-- A call comes, or a worker takes a job. -/
  | begins (task : Task κ)
  | goesOn (asked : Option EngineCall) (activity : Activity α κ) (choice : Choice α κ) (behind : Activity α κ)
      (warnings : List Warning)
  | ends (asked : Option EngineCall) (activity : Activity α κ) (choice : Choice α κ) (outcome : Outcome)
      (warnings : List Warning)
  | releases (handle : Handle)

def kept? : Activity α κ → Option Request
  | .keep request .. => some request
  | _ => none

namespace Event

def answer? : Event α κ → Option (EngineCall × Choice α κ)
  | goesOn asked _ choice .. | ends asked _ choice .. => asked.map (·, choice)
  | _ => none

def kept? : Event α κ → Option Request
  | goesOn _ activity .. | ends _ activity .. => Interleaving.kept? activity
  | _ => none

def passed : Event α κ → List Handle
  | begins task => (task.activity : Activity α κ).handles
  | _ => []

end Event

def Turn.event? (asked : Option EngineCall) (activity : Activity α κ) (choice : Choice α κ) :
    Turn α κ → Option (Event α κ)
  | .next _ behind warnings => some (.goesOn asked activity choice behind warnings)
  | .done _ outcome warnings => some (.ends asked activity choice outcome warnings)
  | _ => none

/-- What an act does for a path. Where all units are built anew, it is as if a call came for each, when its turn
comes. -/
def Act.event? (path : Path) (number : Nat → Nat) (act : Act α κ) : Option (Event α κ) :=
  if act.frame.on path then
    act.turn?.bind fun turn => Turn.event? (act.call?.map (EngineCall.renumber number))
      (act.frame.activity.single.renumber number) act.choice ((turn.single act.frame.activity).over number act.store)
  else
    match act.frame.activity, act.choice with
    | .refreshNext (request :: _) _, .proceed =>
      if path == request.path then some (.begins (.operation (.addReparse { request }))) else none
    | _, _ => none

def Moment.event? (path : Path) (number : Nat → Nat) (moment : Moment α κ) : Option (Event α κ) :=
  match moment.begins?, moment.act?, moment.move with
  | some (clock, task), _, _ =>
    if Frame.on path (⟨clock, task, task.activity⟩ : Frame α κ) then some (.begins (task.renumber number)) else none
  | none, some act, _ => act.event? path number
  | none, none, .thread _ (.release handle) =>
    if path == handle.request.path then some (.releases (handle.renumber number)) else none
  | none, none, _ => none

structure Entry (α κ : Type) where
  thread : Nat
  event : Event α κ
  left : View

def Moment.entry? (path : Path) (number who : Nat → Nat) (moment : Moment α κ) : Option (Entry α κ) :=
  match moment.move with
  | .thread index _ => do
    let event ← moment.event? path number
    let next ← moment.system.move? moment.move
    some ⟨who index, event, (view next.store path).renumber number⟩
  | _ => none

def log (path : Path) (number who : Nat → Nat) (history : List (Moment α κ)) : List (Entry α κ) :=
  history.filterMap (Moment.entry? path number who)

/-- The engine answers each call as it may after what was done for the path before. -/
def Obeys (engine : List (Entry α κ) → EngineCall → Choice α κ → Prop) (entries : List (Entry α κ)) : Prop :=
  ∀ earlier entry later, entries = earlier ++ entry :: later →
    ∀ call choice, entry.event.answer? = some (call, choice) → engine earlier call choice

section Tasks

variable (number : Nat → Nat)

@[simp]
theorem Task.renumber_id (task : Task κ) : task.renumber id = task := by
  cases task with
  | operation operation => cases operation <;> rfl
  | _ => rfl

theorem Operation.activity_renumber (operation : Operation κ) :
    ((operation.renumber number).activity : Activity α κ) = operation.activity.single.renumber number := by
  cases operation <;> rfl

theorem Task.handles_renumber (task : Task κ) :
    ((task.renumber number).activity : Activity α κ).handles =
      (task.activity : Activity α κ).handles.map (Handle.renumber number) := by
  cases task with
  | operation operation =>
    simp [Task.renumber, Task.activity, Operation.activity_renumber, Activity.handles_renumber]
  | job job =>
    simp only [Task.renumber, Task.activity, Activity.ofJob]
    split <;> rfl
  | tick => rfl

end Tasks

section Turns

variable {path : Path} {number : Nat → Nat}

theorem Act.call?_eq (act : Act α κ) : act.call? =
    match act.frame.activity with
    | .parsing request _ => some (.parse request act.store.flags)
    | .using handle use => Activity.callFor act.store handle use
    | _ => none := by
  unfold Act.call?
  split
  next call asks =>
    cases activity : act.frame.activity <;> rw [activity] at asks <;> have known := asks_of_step asks
    case parsing =>
      cases asks
      rfl
    case «using» handle use => cases use <;> cases asks <;> rfl
    all_goals cases known
  next other =>
    split
    next activity => exact absurd (by rw [activity]; rfl) (other _)
    next handle use activity =>
      cases use with
      | hold => rfl
      | _ => exact absurd (by rw [activity]; rfl) (other _)
    next => rfl

theorem Turn.event?_over (asked : Option EngineCall) (activity : Activity α κ) (choice : Choice α κ) (turn : Turn α κ)
    (store other : Store α κ) :
    Turn.event? asked activity choice (turn.over number store) =
      Turn.event? asked activity choice (turn.over number other) := by
  cases turn <;> rfl

theorem Turn.event?_over_id (asked : Option EngineCall) (activity : Activity α κ) (choice : Choice α κ) (turn : Turn α κ)
    (store : Store α κ) :
    Turn.event? asked activity choice (turn.over id store) = Turn.event? asked activity choice turn := by
  cases turn <;> simp [Turn.over, Turn.event?]

theorem Turn.event?_of_storeOf? {turn : Turn α κ} {store : Store α κ} (left : storeOf? turn = some store)
    (asked : Option EngineCall) (activity : Activity α κ) (choice : Choice α κ) :
    ∃ event, Turn.event? asked activity choice turn = some event := by
  cases turn <;> cases left <;> exact ⟨_, rfl⟩

end Turns

section Moments

variable {path : Path} {number : Nat → Nat} {moment : Moment α κ} {act : Act α κ} {event : Event α κ}

theorem event?_of_begins {clock : Nat} {task : Task κ} (begun : moment.begins? = some (clock, task)) :
    moment.event? path number =
      if Frame.on path (⟨clock, task, task.activity⟩ : Frame α κ) then
        some (.begins (task.renumber number))
      else none := by
  simp only [Moment.event?, begun]

theorem event?_of_act (old : moment.begins? = none) (told : moment.act? = some act) :
    moment.event? path number = act.event? path number := by
  simp only [Moment.event?, old, told]

theorem Act.event?_of_on (on : act.frame.on path = true) {turn : Turn α κ} (turned : act.turn? = some turn) :
    act.event? path number = Turn.event? (act.call?.map (EngineCall.renumber number))
      (act.frame.activity.single.renumber number) act.choice
      ((turn.single act.frame.activity).over number act.store) := by
  simp only [Act.event?, on, if_true, turned, Option.bind_some]

/-- What is not done for the path is no event, unless the path has its turn where all units are built anew. -/
theorem Act.event?_of_off (off : act.frame.on path = false)
    (other : ∀ request left queued, act.frame.activity = .refreshNext (request :: left) queued → act.choice = .proceed →
      (path == request.path) = false) : act.event? path number = none := by
  simp only [Act.event?, off, Bool.false_eq_true, if_false]
  split
  next request left queued activity proceeds =>
    rw [other request left queued activity proceeds]
    rfl
  next => rfl

theorem Act.event?_of_next {request : Request} {left : List Request} {queued : Nat} (off : act.frame.on path = false)
    (activity : act.frame.activity = .refreshNext (request :: left) queued) (proceeds : act.choice = .proceed)
    (here : (path == request.path) = true) :
    act.event? path number = some (.begins (.operation (.addReparse { request }))) := by
  simp only [Act.event?, off, Bool.false_eq_true, if_false, activity, proceeds, here, if_true]

theorem event_of_act (told : act.event? path number = some event) :
    (act.frame.on path = true ∧ ∃ turn, act.turn? = some turn ∧ Turn.event? (act.call?.map (EngineCall.renumber number))
      (act.frame.activity.single.renumber number) act.choice
      ((turn.single act.frame.activity).over number act.store) = some event) ∨
    (∃ request left queued, act.frame.activity = .refreshNext (request :: left) queued ∧ act.choice = .proceed ∧
      event = .begins (.operation (.addReparse { request }))) := by
  unfold Act.event? at told
  split at told
  next on =>
    obtain ⟨turn, turned, same⟩ := Option.bind_eq_some_iff.mp told
    exact .inl ⟨on, turn, turned, same⟩
  next =>
    split at told
    next request left queued activity proceeds =>
      split at told
      next =>
        cases told
        exact .inr ⟨request, left, queued, activity, proceeds, rfl⟩
      next => cases told
    next => cases told

theorem event_of_moment (told : moment.event? path number = some event) :
    (∃ clock task, moment.begins? = some (clock, task) ∧
      Frame.on path (⟨clock, task, task.activity⟩ : Frame α κ) = true ∧ event = .begins (task.renumber number)) ∨
    (∃ act, moment.begins? = none ∧ moment.act? = some act ∧ act.event? path number = some event) ∨
    (∃ index handle, moment.begins? = none ∧ moment.act? = none ∧ moment.move = .thread index (.release handle) ∧
      (path == handle.request.path) = true ∧ event = .releases (handle.renumber number)) := by
  unfold Moment.event? at told
  split at told
  next clock task begun =>
    split at told <;> cases told
    next on => exact .inl ⟨clock, task, begun, on, rfl⟩
  next act old acts => exact .inr (.inl ⟨act, old, acts, told⟩)
  next index handle old idle released =>
    split at told <;> cases told
    next here => exact .inr (.inr ⟨index, handle, old, idle, released, here, rfl⟩)
  next => cases told

theorem kept?_of_turn {asked : Option EngineCall} {activity : Activity α κ} {choice : Choice α κ} {turn : Turn α κ}
    (told : Turn.event? asked activity choice turn = some event) :
    event.passed = [] ∧ event.kept? = kept? activity := by
  cases turn <;> cases told <;> exact ⟨rfl, rfl⟩

theorem kept?_of_moment (apart : moment.begins? = none ∨ moment.act? = none)
    (told : moment.event? path number = some event) :
    (moment.act?.bind Act.build?).map Build.request = event.kept? := by
  rcases event_of_moment told with ⟨clock, task, begun, -, rfl⟩ | ⟨act, -, acts, told⟩ | ⟨_, handle, -, idle, -, -, rfl⟩
  · rw [apart.resolve_left (by simp [begun])]
    rfl
  · rw [acts, Option.bind_some, Act.build?]
    rcases event_of_act told with ⟨-, turn, -, same⟩ | ⟨request, left, queued, activity, -, rfl⟩
    · rw [(kept?_of_turn same).2]
      cases act.frame.activity <;> rfl
    · rw [activity]
      rfl
  · rw [idle]
    rfl

theorem passed_of_moment (told : moment.event? path number = some event) :
    event.passed = moment.passed.map (Handle.renumber number) := by
  obtain ⟨system, move⟩ := moment
  rcases event_of_moment told with ⟨clock, task, begun, -, rfl⟩ | ⟨act, old, acts, told⟩ |
    ⟨_, handle, -, -, released, -, rfl⟩
  · rw [Event.passed, Task.handles_renumber]
    cases move with
    | thread index choice =>
      cases choice with
      | call operation =>
        cases begun
        rfl
      | take =>
        obtain ⟨taken, _, same⟩ := Option.map_eq_some_iff.mp begun
        cases same
        simp only [Moment.passed, Task.activity, Activity.ofJob]
        split <;> rfl
      | tick =>
        cases begun
        rfl
      | _ => cases begun
    | _ => cases begun
  · have none_passed : Moment.passed (⟨system, move⟩ : Moment α κ) = [] := by
      cases move with
      | thread index choice => cases choice <;> first | rfl | cases old
      | _ => rfl
    rw [none_passed]
    rcases event_of_act told with ⟨-, turn, -, same⟩ | ⟨_, _, _, -, -, rfl⟩
    · exact (kept?_of_turn same).1
    · rfl
  · cases released
    rfl

end Moments

end UnitCache.Interleaving
