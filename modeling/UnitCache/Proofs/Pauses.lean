import UnitCache.Proofs.Rules
/-!
Where a thread does not go on by itself. It is outside the cache, in the engine or in a callback, or it waits, for room
in the queue or for a unit that is in use. All else leads on at once.
-/
namespace UnitCache.Interleaving

variable {α κ : Type}

/-- A turn that passes a store on as it is, once a job is queued or refused or something is done for an owner. -/
inductive PassesOn (store : Store α κ) : Turn α κ → Prop where
  | done (outcome : Outcome) (warnings : List Warning) : PassesOn store (.done store outcome warnings)
  | refreshes (left : List Request) (queued : Nat) (warnings : List Warning) :
      PassesOn store (.next store (.refreshNext left queued) warnings)
  | settles (owner : Owner κ) (built : Option Handle) (warnings : List Warning) :
      PassesOn store (.next store (.settle owner built) warnings)
  | loads (request : Request) (owner : Owner κ) : PassesOn store (.next store (.load request owner) [])
  | submits (request : Request) (giving : Giving) : PassesOn store (.next store (.enqueue { request } giving) [])
  | calls (callback : κ) : PassesOn store (.next store (.calling callback) [])
  | unwinds (path : Path) : PassesOn store (.next store (.unwind path) [])

section Ways

variable {store next : Store α κ} {owner : Owner κ} {built : Option Handle} {warnings : List Warning}

theorem PassesOn.of_give (giving : Giving) (accepted : Bool) :
    PassesOn store (giving.give store accepted warnings) := by
  cases giving <;> constructor

theorem PassesOn.of_afterBuild : PassesOn store (owner.afterBuild store built warnings) := by
  cases owner <;> constructor

theorem PassesOn.of_afterRefresh : PassesOn store (owner.afterRefresh store warnings) := by
  cases owner <;> constructor

theorem PassesOn.of_afterPanic : PassesOn store (owner.afterPanic store) := by
  cases owner <;> constructor

theorem PassesOn.of_finish : PassesOn store (owner.finish store built) := by
  cases owner with
  | job work => cases called : work.callback <;> simp only [Owner.finish, called] <;> constructor
  | _ => constructor

theorem PassesOn.of_takeOver {request : Request} : PassesOn store (owner.takeOver store built request) := by
  cases owner <;> constructor

theorem PassesOn.same {turn : Turn α κ} {frame : Frame α κ} {left : Option (Frame α κ)} (passes : PassesOn store turn)
    (made : frame.after? turn = some (next, left)) : next = store := by
  cases passes <;> cases made <;> rfl

end Ways

def moves : Turn α κ → Bool
  | .next .. | .done .. => true
  | _ => false

theorem PassesOn.moves {store : Store α κ} {turn : Turn α κ} (passes : PassesOn store turn) :
    Interleaving.moves turn = true := by
  cases passes <;> rfl

inductive Asks : Activity α κ → EngineCall → Prop where
  | parse (request : Request) (owner : Owner κ) (flags : ParseFlags) :
      Asks (.parsing request owner) (.parse request flags)
  | refresh (handle : Handle) (request : Request) (owner : Owner κ) (flags : ParseFlags) :
      Asks (.using handle (.refresh request owner)) (.reparse handle flags)
  | reparse (handle : Handle) (own flags : ParseFlags) : Asks (.using handle (.reparse own)) (.reparse handle flags)
  | query (handle : Handle) (line column : UInt32) (flags : ParseFlags) :
      Asks (.using handle (.query line column)) (.complete handle line column flags)
  | complete (handle : Handle) (line column : UInt32) (own flags : ParseFlags) :
      Asks (.using handle (.complete line column own)) (.complete handle line column flags)

/-- What an activity waits for: room in the queue, or a unit that is in use. -/
inductive Waits (background : Bool) (store : Store α κ) : Activity α κ → Prop where
  | room (job : Job κ) (giving : Giving) (waits : (store.enqueue background job).1 = .waits) :
      Waits background store (.enqueue job giving)
  | unit (handle : Handle) (use : Use κ) (taken : store.isLocked handle.number = true) :
      Waits background store (.acquire handle use)

inductive Stepped (background : Bool) (store : Store α κ) : Activity α κ → Turn α κ → Prop where
  | leadsOn (activity : Activity α κ) (turn : Turn α κ) (goes : moves turn = true) :
      Stepped background store activity turn
  | asks {activity : Activity α κ} {call : EngineCall} (asked : Asks activity call) :
      Stepped background store activity (.engine call)
  | calls (callback : κ) : Stepped background store (.calling callback) (.callback callback)
  | waits {activity : Activity α κ} (stays : Waits background store activity) :
      Stepped background store activity .waits

section Turns

variable {background : Bool} {store : Store α κ} {activity : Activity α κ}

theorem asks_of_callFor {handle : Handle} {use : Use κ} {call : EngineCall}
    (called : Activity.callFor store handle use = some call) : Asks (.using handle use : Activity α κ) call := by
  cases use <;> cases called <;> constructor

theorem stepped (background : Bool) (store : Store α κ) (activity : Activity α κ) :
    Stepped background store activity (activity.step background store) := by
  have rule := rule_of_step background store activity
  generalize activity.step background store = turn at rule
  cases rule with
  | askParse request owner => exact .asks (.parse request owner store.flags)
  | askUse handle use call called => exact .asks (asks_of_callFor called)
  | call callback => exact .calls callback
  | awaitRoom job giving queued => exact .waits (.room job giving queued)
  | awaitUnit handle use taken => exact .waits (.unit handle use taken)
  | present _ giving | record _ giving | spare _ giving | accepted _ giving | withdraw _ giving =>
    exact .leadsOn _ _ (PassesOn.of_give giving _).moves
  | served | keep | noteFailure => exact .leadsOn _ _ PassesOn.of_afterBuild.moves
  | findNothing | noteReparse | evict => exact .leadsOn _ _ PassesOn.of_afterRefresh.moves
  | settleAlone | settle => exact .leadsOn _ _ PassesOn.of_finish.moves
  | takeOver => exact .leadsOn _ _ PassesOn.of_takeOver.moves
  | _ => exact .leadsOn _ _ rfl

theorem asks_of_step {call : EngineCall} (goes : activity.step background store = .engine call) :
    Asks activity call := by
  have done := stepped background store activity
  rw [goes] at done
  cases done with
  | leadsOn _ _ moves => cases moves
  | asks asked => exact asked

theorem calling_of_step {callback : κ} (goes : activity.step background store = .callback callback) :
    activity = .calling callback := by
  have done := stepped background store activity
  rw [goes] at done
  cases done with
  | leadsOn _ _ moves => cases moves
  | calls => rfl

theorem waits_of_step (stays : activity.step background store = .waits) : Waits background store activity := by
  have done := stepped background store activity
  rw [stays] at done
  cases done with
  | leadsOn _ _ moves => cases moves
  | waits stays => exact stays

/-- Who comes back from outside goes on at once. -/
theorem moves_of_turn {choice : Choice α κ} {turn : Turn α κ}
    (chosen : turn? background store activity choice = some turn) : choice = .proceed ∨ moves turn = true := by
  cases rule_of_turn chosen with
  | parsePanicked | refreshPanicked => exact .inr PassesOn.of_afterPanic.moves
  | _ => first | exact .inl rfl | exact .inr rfl

theorem step_of_turn {choice : Choice α κ} {turn : Turn α κ}
    (chosen : turn? background store activity choice = some turn) (stays : moves turn = false) :
    activity.step background store = turn := by
  rcases moves_of_turn chosen with rfl | goes
  · exact Option.some.inj chosen
  · rw [stays] at goes
    cases goes

theorem after?_of_moves {turn : Turn α κ} (goes : moves turn = true) (frame : Frame α κ) :
    ∃ next left, frame.after? turn = some (next, left) := by
  cases turn with
  | next | done => exact ⟨_, _, rfl⟩
  | _ => cases goes

theorem Waits.inside (waits : Waits background store activity) : outside activity = false := by
  cases waits <;> rfl

theorem Waits.turn {choice : Choice α κ} {turn : Turn α κ} (waits : Waits background store activity)
    (chosen : turn? background store activity choice = some turn) : turn = .waits := by
  cases waits with
  | room job giving waits =>
    cases rule_of_turn chosen with
    | awaitRoom => rfl
    | accepted _ _ queued | full _ _ queued | closed _ _ queued =>
      rw [waits] at queued
      cases queued
  | unit handle use taken =>
    cases rule_of_turn chosen with
    | awaitUnit => rfl
    | hold _ free | acquire _ _ free =>
      rw [taken] at free
      cases free

end Turns

section Engine

variable {background : Bool} {store : Store α κ} {activity : Activity α κ}

theorem Asks.outside {call : EngineCall} (asks : Asks activity call) : outside activity = true := by
  cases asks <;> rfl

theorem Asks.parsed {request : Request} {flags : ParseFlags} (asks : Asks activity (.parse request flags))
    (answer : Answer α) :
    turn? background store activity (.parsed answer) = some (activity.afterParse store answer) := by
  cases asks
  rfl

theorem Asks.reparsed {handle : Handle} {flags : ParseFlags} (asks : Asks activity (.reparse handle flags))
    (answer : Answer α) :
    turn? background store activity (.reparsed answer) = some (activity.afterReparse store answer) := by
  cases asks <;> rfl

theorem Asks.completed {handle : Handle} {line column : UInt32} {flags : ParseFlags}
    (asks : Asks activity (.complete handle line column flags)) (answer : Answer (List Candidate))
    (noted : List Warning) :
    turn? background store activity (.completed answer noted) = some (activity.afterCompletion store answer noted) := by
  cases asks <;> rfl

end Engine

end UnitCache.Interleaving
