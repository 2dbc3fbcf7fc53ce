import UnitCache.Proofs.Reflections
/-!
What is left of a cache where all paths but one are left out. Building all units anew is then a call to build the one
unit anew, whenever its turn has come; all else that is done for the path is done as it was, and the rest is not done at
all.
-/
namespace UnitCache

variable {α κ : Type}

def Giving.single : Giving → Giving
  | .refreshing _ _ => .queued
  | giving => giving

namespace Activity

def single : Activity α κ → Activity α κ
  | .admitParse job giving => .admitParse job giving.single
  | .admitReparse job giving => .admitReparse job giving.single
  | .enqueue job giving => .enqueue job giving.single
  | .withdraw path giving => .withdraw path giving.single
  | activity => activity

end Activity

/-- What comes of an activity in a call that is about one unit only: where all units are built anew, and the next one is
to come, it is done, and gives back whether one more job was queued. -/
def Turn.single (before : Activity α κ) : Turn α κ → Turn α κ
  | .next store (.refreshNext left count) warnings =>
    match before.giving? with
    | some (.refreshing _ queued) => .done store (.queued (count != queued)) warnings
    | _ => .next store (.refreshNext left count) warnings
  | .next store behind warnings => .next store behind.single warnings
  | turn => turn

section Renumberings

variable (number : Nat → Nat)

@[simp]
theorem Handle.renumber_id (handle : Handle) : handle.renumber id = handle := rfl

@[simp]
theorem Handle.map_renumber_id (handle : Option Handle) : handle.map (Handle.renumber id) = handle := by
  cases handle <;> rfl

@[simp]
theorem Giving.renumber_id (giving : Giving) : giving.renumber id = giving := by cases giving <;> simp [Giving.renumber]

@[simp]
theorem Outcome.renumber_id (outcome : Outcome) : outcome.renumber id = outcome := by
  cases outcome <;> simp [Outcome.renumber]

@[simp]
theorem EngineCall.renumber_id (call : EngineCall) : call.renumber id = call := by cases call <;> rfl

@[simp]
theorem EngineCall.map_renumber_id (call : Option EngineCall) : call.map (EngineCall.renumber id) = call := by
  cases call <;> simp

@[simp]
theorem Activity.renumber_id (activity : Activity α κ) : activity.renumber id = activity := by
  cases activity <;> simp [Activity.renumber]

@[simp]
theorem Interleaving.View.renumber_id (held : View) : held.renumber id = held := by simp [View.renumber]

@[simp]
theorem Giving.single_single (giving : Giving) : giving.single.single = giving.single := by cases giving <;> rfl

theorem Giving.single_renumber (giving : Giving) : (giving.renumber number).single = giving.single.renumber number := by
  cases giving <;> rfl

namespace Activity

variable (activity : Activity α κ)

@[simp]
theorem single_single : activity.single.single = activity.single := by cases activity <;> simp [single]

theorem single_renumber : (activity.renumber number).single = activity.single.renumber number := by
  cases activity <;> simp [single, renumber, Giving.single_renumber]

theorem giving?_single : activity.single.giving? = activity.giving?.map Giving.single := by cases activity <;> rfl

theorem giving?_renumber : (activity.renumber number).giving? = activity.giving?.map (Giving.renumber number) := by
  cases activity <;> rfl

@[simp]
theorem handles_single : activity.single.handles = activity.handles := by
  cases activity with
  | admitParse _ giving | admitReparse _ giving | enqueue _ giving | withdraw _ giving => cases giving <;> rfl
  | _ => rfl

theorem handles_renumber : (activity.renumber number).handles = activity.handles.map (Handle.renumber number) := by
  cases activity with
  | admitParse _ giving | admitReparse _ giving | enqueue _ giving | withdraw _ giving =>
    cases giving with
    | unit handle => cases handle <;> rfl
    | _ => rfl
  | settle _ built => cases built <;> rfl
  | _ => rfl

end Activity

end Renumberings

namespace Interleaving

section Activities

variable (number : Nat → Nat) (activity : Activity α κ)

@[simp]
theorem names_single : names activity.single = names activity := by cases activity <;> rfl

@[simp]
theorem names_renumber : names (activity.renumber number) = names activity := by cases activity <;> rfl

@[simp]
theorem outside_single : outside activity.single = outside activity := by cases activity <;> rfl

@[simp]
theorem outside_renumber : outside (activity.renumber number) = outside activity := by
  cases activity with
  | «using» handle use => cases use <;> rfl
  | _ => rfl

end Activities

section Turns

variable {background : Bool} {store : Store α κ} {activity : Activity α κ} {choice : Choice α κ} {turn : Turn α κ}

theorem single_give {giving : Giving} (gives : activity.giving? = some giving) (accepted : Bool)
    (warnings : List Warning) :
    (giving.give store accepted warnings).single activity = giving.single.give store accepted warnings := by
  cases giving with
  | refreshing left queued =>
    have told : ((if accepted then queued + 1 else queued) != queued) = accepted := by cases accepted <;> simp
    simp [Giving.give, Giving.single, Turn.single, gives, told]
  | _ => rfl

theorem single_next {behind : Activity α κ} (other : ∀ left count, behind ≠ .refreshNext left count)
    (warnings : List Warning) :
    (Turn.next store behind warnings).single activity = .next store behind.single warnings := by
  cases behind with
  | refreshNext left count => exact absurd rfl (other left count)
  | _ => rfl

theorem single_of_refreshing {left others : List Request} {queued count : Nat}
    (gives : activity.giving? = some (.refreshing left queued)) (warnings : List Warning) :
    (Turn.next store (.refreshNext others count) warnings).single activity =
      .done store (.queued (count != queued)) warnings := by
  simp only [Turn.single, gives]

theorem single_of_other (gives : ∀ left queued, activity.giving? ≠ some (.refreshing left queued)) (others : List Request)
    (count : Nat) (warnings : List Warning) :
    (Turn.next store (.refreshNext others count) warnings).single activity =
      .next store (.refreshNext others count) warnings := by
  simp only [Turn.single]

theorem single_over_single (number : Nat → Nat) (other : Store α κ) :
    ((turn.single activity).over number other).single (activity.single.renumber number) =
      (turn.single activity).over number other := by
  cases turn with
  | next store behind warnings =>
    by_cases more : ∃ others count, behind = .refreshNext others count
    · obtain ⟨others, count, rfl⟩ := more
      by_cases refreshing : ∃ left queued, activity.giving? = some (.refreshing left queued)
      · obtain ⟨left, queued, gives⟩ := refreshing
        rw [single_of_refreshing gives]
        rfl
      · rw [single_of_other fun left queued given => refreshing ⟨left, queued, given⟩, Turn.over]
        refine single_of_other (fun left queued same => ?_) _ _ _
        rw [Activity.giving?_renumber, Activity.giving?_single] at same
        cases given : activity.giving? with
        | none => simp [given] at same
        | some giving => cases giving <;> simp [given, Giving.single, Giving.renumber] at same
    · have other_one : ∀ others count, behind ≠ .refreshNext others count :=
        fun others count same => more ⟨others, count, same⟩
      rw [single_next other_one, Turn.over, single_next, Activity.single_renumber, Activity.single_single]
      intro others count same
      cases behind <;> simp [Activity.single, Activity.renumber] at same
      exact other_one _ _ rfl
  | _ => rfl

@[simp]
theorem single_afterBuild (owner : Owner κ) (built : Option Handle) (warnings : List Warning) :
    (owner.afterBuild store built warnings).single activity = owner.afterBuild store built warnings := by
  cases owner <;> rfl

@[simp]
theorem single_afterRefresh (owner : Owner κ) (warnings : List Warning) :
    (owner.afterRefresh store warnings).single activity = owner.afterRefresh store warnings := by
  cases owner <;> rfl

@[simp]
theorem single_afterPanic (owner : Owner κ) :
    (owner.afterPanic store).single activity = owner.afterPanic store := by
  cases owner <;> rfl

@[simp]
theorem single_finish (owner : Owner κ) (built : Option Handle) :
    (owner.finish store built).single activity = owner.finish store built := by
  cases owner with
  | job work => cases called : work.callback <;> simp [Owner.finish, called, Turn.single, Activity.single]
  | _ => rfl

@[simp]
theorem single_takeOver (owner : Owner κ) (built : Option Handle) (request : Request) :
    (owner.takeOver store built request).single activity = owner.takeOver store built request := by
  cases owner <;> rfl

theorem single_of_rule (rule : Rule background store activity choice turn)
    (other : ∀ left queued, activity ≠ .refreshNext left queued) :
    Rule background store activity.single choice (turn.single activity) := by
  cases rule with
  | refreshed | refreshNext | reorder => exact absurd rfl (other _ _)
  | present job giving handle found =>
    rw [single_give rfl]
    exact .present job _ handle found
  | record job giving absent marked =>
    rw [single_give rfl]
    exact .record job _ absent marked
  | parse job giving absent free => exact .parse job _ absent free
  | spare job giving needless =>
    rw [single_give rfl]
    exact .spare job _ needless
  | reparse job giving there free => exact .reparse job _ there free
  | accepted job giving queued =>
    rw [single_give rfl]
    exact .accepted job _ queued
  | full job giving queued => exact .full job _ queued
  | closed job giving queued => exact .closed job _ queued
  | awaitRoom job giving queued => exact .awaitRoom job _ queued
  | withdraw path giving =>
    rw [single_give rfl]
    exact .withdraw path _
  | served request owner handle found serves =>
    rw [single_afterBuild]
    exact .served request owner handle found serves
  | parsePanicked request owner =>
    rw [single_afterPanic]
    exact .parsePanicked request owner
  | keep request artifact owner =>
    rw [single_afterBuild]
    exact .keep request artifact owner
  | noteFailure request error owner =>
    rw [single_afterBuild]
    exact .noteFailure request error owner
  | settleAlone owner built unowned =>
    rw [single_finish]
    exact .settleAlone owner built unowned
  | settle owner built path owned kept =>
    rw [single_finish]
    exact .settle owner built path owned kept
  | takeOver owner built path request owned given =>
    rw [single_takeOver]
    exact .takeOver owner built path request owned given
  | findNothing request owner missing =>
    rw [single_afterRefresh]
    exact .findNothing request owner missing
  | refreshPanicked handle request owner =>
    rw [single_afterPanic]
    exact .refreshPanicked handle request owner
  | noteReparse handle request owner =>
    rw [single_afterRefresh]
    exact .noteReparse handle request owner
  | evict handle owner =>
    rw [single_afterRefresh]
    exact .evict handle owner
  | _ => constructor <;> assumption

end Turns

end Interleaving
end UnitCache
