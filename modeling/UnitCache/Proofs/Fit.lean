import UnitCache.Proofs.Effect
import UnitCache.Proofs.Rules

namespace UnitCache.Interleaving

variable {α κ : Type}

inductive Follows (store : Store α κ) : Activity α κ → Activity α κ → Prop where
  | drops (request : Request) (stale : Handle) : Follows store (.lookUp request) (.dropStale request stale)
  | first (request : Request) : Follows store (.lookUp request) (.build request (.first request))
  | admits (request : Request) (stale : Handle) :
      Follows store (.dropStale request stale) (.admitParse { request } (.unit (some stale)))
  | parse (job : Job κ) (giving : Giving) :
      Follows store (.admitParse job giving) (.enqueue { job with kind := .parse } giving)
  | reparse (job : Job κ) (giving : Giving) :
      Follows store (.admitReparse job giving) (.enqueue { job with kind := .reparse } giving)
  /-- There are more units to build anew. -/
  | goesOn {activity : Activity α κ} (unmarked : subjects? activity = none) (left : List Request) (queued : Nat) :
      Follows store activity (.refreshNext left queued)
  | refresh (request : Request) (left : List Request) (queued : Nat) :
      Follows store (.refreshNext (request :: left) queued) (.admitReparse { request } (.refreshing left queued))
  | withdraw (job : Job κ) (giving : Giving) : Follows store (.enqueue job giving) (.withdraw job.request.path giving)
  | replaces (request : Request) (owner : Owner κ) : Follows store (.load request owner) (.dropReplaced request owner)
  | absent (request : Request) (owner : Owner κ) : Follows store (.load request owner) (.build request owner)
  | replaced (request : Request) (owner : Owner κ) : Follows store (.dropReplaced request owner) (.build request owner)
  | asks (request : Request) (owner : Owner κ) : Follows store (.build request owner) (.parsing request owner)
  | keeps (request : Request) (artifact : α) (owner : Owner κ) :
      Follows store (.parsing request owner) (.keep request artifact owner)
  | fails (request : Request) (error : Error) (owner : Owner κ) :
      Follows store (.parsing request owner) (.noteFailure request error owner)
  | settles {activity : Activity α κ} {owner : Owner κ} {paths : List Path}
      (subjects : subjects? activity = some (owner, paths)) (built : Option Handle) :
      Follows store activity (.settle owner built)
  | panics {activity : Activity α κ} (path : Path) : Follows store activity (.unwind path)
  | takesOver (owner : Owner κ) (built : Option Handle) (path : Path) (request : Request)
      (owned : owner.path? = some path) (put : (view store path).pending = some request) :
      Follows store (.settle owner built) (.load request owner)
  | hands (owner : Owner κ) (built : Option Handle) (request : Request) :
      Follows store (.settle owner built) (.enqueue { request } (.unit built))
  | calls (work : Job κ) (built : Option Handle) (callback : κ) (called : work.callback = some callback) :
      Follows store (.settle (.job work) built) (.calling callback)
  | finds (request : Request) (owner : Owner κ) (handle : Handle) (found : store.peek request.path = some handle) :
      Follows store (.find request owner) (.acquire handle (.refresh request owner))
  | uses (handle : Handle) (use : Use κ) : Follows store (.acquire handle use) (.using handle use)
  | notes (handle : Handle) (request : Request) (failure : Option Error) (owner : Owner κ) :
      Follows store (.using handle (.refresh request owner)) (.noteReparse handle request failure owner)
  | notesFailure (handle : Handle) (request : Request) (failure : Option Error) (error : Error) (owner : Owner κ) :
      Follows store (.noteReparse handle request failure owner) (.noteReparseFailure handle request error owner)
  | evicts (handle : Handle) (request : Request) (error : Error) (owner : Owner κ) :
      Follows store (.noteReparseFailure handle request error owner) (.evict handle owner)
  | queries (query : CompletionQuery) (handle : Handle) (line column : UInt32) :
      Follows store (.ask query) (.acquire handle (.query line column))

section Turns

variable {store later next : Store α κ} {owner : Owner κ} {activity behind : Activity α κ}
  {warnings noted : List Warning}

theorem follows_give {giving : Giving} {accepted : Bool} (unmarked : subjects? activity = none)
    (goes : giving.give later accepted warnings = .next next behind noted) : Follows store activity behind := by
  cases giving <;> cases goes
  exact .goesOn unmarked _ _

theorem follows_afterBuild {paths : List Path} (subjects : subjects? activity = some (owner, paths))
    {built : Option Handle} (goes : owner.afterBuild later built warnings = .next next behind noted) :
    Follows store activity behind := by
  cases owner <;> cases goes <;> exact .settles subjects _

theorem follows_afterRefresh {paths : List Path} (subjects : subjects? activity = some (owner, paths))
    (goes : owner.afterRefresh later warnings = .next next behind noted) : Follows store activity behind := by
  cases owner <;> cases goes <;> exact .settles subjects _

theorem follows_afterPanic (goes : owner.afterPanic later = .next next behind noted) :
    Follows store activity behind := by
  cases owner <;> cases goes <;> exact .panics _

theorem follows_finish {built : Option Handle} (goes : owner.finish later built = .next next behind noted) :
    Follows store (.settle owner built) behind := by
  cases owner with
  | job work =>
    cases called : work.callback <;> simp only [Owner.finish, called] at goes <;> cases goes
    exact .calls work built _ called
  | _ => cases goes

theorem follows_takeOver {path : Path} {request : Request} {built : Option Handle} (owned : owner.path? = some path)
    (put : (view store path).pending = some request)
    (goes : owner.takeOver later built request = .next next behind noted) :
    Follows store (.settle owner built) behind := by
  cases owner <;> cases goes
  · exact .hands _ _ _
  · exact .takesOver _ _ path request owned put
  · exact .hands _ _ _

end Turns

theorem follows_of_turn {background : Bool} {store next : Store α κ} {activity behind : Activity α κ}
    {choice : Choice α κ} {warnings : List Warning}
    (chosen : turn? background store activity choice = some (.next next behind warnings)) :
    Follows store activity behind := by
  have rule := rule_of_turn chosen
  generalize same : Turn.next next behind warnings = turn at rule
  cases rule with
  | present | record | spare | accepted | withdraw => exact follows_give rfl same.symm
  | served | keep | noteFailure => exact follows_afterBuild rfl same.symm
  | findNothing | noteReparse | evict => exact follows_afterRefresh rfl same.symm
  | parsePanicked | refreshPanicked => exact follows_afterPanic same.symm
  | settleAlone | settle => exact follows_finish same.symm
  | takeOver owner built path request owned given =>
    exact follows_takeOver owned (settle_stale store path request given).1 same.symm
  | collect | reorder =>
    cases same
    exact .goesOn rfl _ _
  | full job giving | closed job giving =>
    cases same
    exact .withdraw job giving
  | find request owner handle found =>
    cases same
    exact .finds request owner handle found
  | stale | first | dropStale | parse | reparse | refreshNext | replaced | absent | dropReplaced | build | parsed
  | parseFailed | acquire | ask | refreshDone | refreshFailed | noteReparseFailed | noteReparseFailure =>
    cases same
    constructor
  | _ => cases same

section Fits

variable {activity : Activity α κ}

theorem fits_of_owned {owner : Owner κ} {path : Path} {paths : List Path}
    (subjects : subjects? activity = some (owner, paths)) (owned : owner.path? = some path)
    (all : ∀ other ∈ paths, (other == path) = true) : Fits activity := by
  intro other others found
  rw [subjects] at found
  cases found
  exact ⟨path, owned, all⟩

theorem fits_of_free (free : subjects? activity = none) : Fits activity := by
  intro owner paths found
  rw [free] at found
  cases found

theorem Fits.of_subset {behind : Activity α κ} {owner : Owner κ} {paths others : List Path} (fits : Fits activity)
    (subjects : subjects? activity = some (owner, paths)) (follows : subjects? behind = some (owner, others))
    (subset : others ⊆ paths) : Fits behind := by
  obtain ⟨path, owned, all⟩ := fits owner paths subjects
  exact fits_of_owned follows owned fun other inside => all other (subset inside)

theorem Fits.of_follows {store : Store α κ} {behind : Activity α κ} (keyed : Keyed store) (fits : Fits activity)
    (follows : Follows store activity behind) : Fits behind := by
  cases follows with
  | first request => exact fits_of_owned rfl (rfl : (Owner.first request : Owner κ).path? = some request.path) (by simp)
  | replaces | absent | replaced | asks | keeps | fails | notes | notesFailure | evicts =>
    exact fits.of_subset rfl rfl (by simp)
  | uses handle use =>
    cases use with
    | refresh request owner => exact fits.of_subset rfl rfl (List.Subset.refl _)
    | _ => exact fits_of_free rfl
  | settles subjects built => exact fits.of_subset subjects rfl (by simp)
  | takesOver owner built path request owned put =>
    exact fits_of_owned rfl owned (by simpa using keyed.pending path request put)
  | finds request owner handle found =>
    obtain ⟨path, owned, all⟩ := fits owner _ rfl
    have same : (request.path == path) = true := all request.path (by simp)
    have unit : (handle.request.path == path) = true := BEq.trans (keyed.units _ handle found) same
    exact fits_of_owned rfl owned (by simp [same, unit])
  | _ => exact fits_of_free rfl

end Fits

def calls? : Owner κ → Option κ
  | .job work => work.callback
  | _ => none

def callback? : Activity α κ → Option κ
  | .admitParse job _ | .admitReparse job _ | .enqueue job _ => job.callback
  | .calling callback => some callback
  | activity => (subjects? activity).bind fun subject => calls? subject.1

theorem callback?_of_subjects {activity : Activity α κ} {owner : Owner κ} {paths : List Path}
    (subjects : subjects? activity = some (owner, paths)) : callback? activity = calls? owner := by
  cases activity <;> first | (cases subjects; done) | simp [callback?, subjects]

theorem Follows.callback? {store : Store α κ} {activity behind : Activity α κ} (follows : Follows store activity behind)
    {callback : κ} (called : callback? behind = some callback) : callback? activity = some callback := by
  cases follows with
  | settles subjects built => exact (callback?_of_subjects subjects).trans called
  | calls work built callback own => exact own.trans called
  | uses handle use => cases use <;> exact called
  | goesOn | panics | first | admits | hands | withdraw | queries | refresh | drops => cases called
  | _ => exact called

end UnitCache.Interleaving
