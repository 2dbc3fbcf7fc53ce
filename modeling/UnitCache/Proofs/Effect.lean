import UnitCache.Proofs.Rules
/-!
What each activity does to the paths. The requests, units and marks that an activity has to do with are all of one
path, up to spelling; given that, its deed tells all that happens to that path, and nothing happens to any other.
-/
namespace UnitCache.Interleaving

variable {α κ : Type}

structure Keyed (store : Store α κ) : Prop where
  units : ∀ path handle, store.peek path = some handle → (handle.request.path == path) = true
  pending : ∀ path request, store.pending.get? path = some request → (request.path == path) = true

def subjects? : Activity α κ → Option (Owner κ × List Path)
  | .load request owner | .dropReplaced request owner | .build request owner | .parsing request owner
  | .keep request _ owner | .noteFailure request _ owner | .find request owner => some (owner, [request.path])
  | .acquire handle (.refresh request owner) | .using handle (.refresh request owner)
  | .noteReparse handle request _ owner | .noteReparseFailure handle request _ owner =>
    some (owner, [request.path, handle.request.path])
  | .evict handle owner => some (owner, [handle.request.path])
  | .settle owner _ => some (owner, [])
  | _ => none

/-- An activity that works for an owner works for that of a mark, and has to do with the marked path alone. -/
def Fits (activity : Activity α κ) : Prop :=
  ∀ owner paths, subjects? activity = some (owner, paths) →
    ∃ path, owner.path? = some path ∧ ∀ other ∈ paths, (other == path) = true

theorem apart_of_same {left right other : Path} (same : (left == right) = true) (apart : (right == other) = false) :
    (left == other) = false := by
  rw [Bool.eq_false_iff] at apart ⊢
  exact fun here => apart (BEq.trans (BEq.symm same) here)

theorem View.erase_entry {held : View} (absent : held.entry = none) : { held with entry := none } = held := by
  cases held
  cases absent
  rfl

theorem onPath_same {β : Type} {path other : Path} (value : β) (same : (other == path) = true) :
    onPath path (some (other, value)) = some value := by simp [onPath, Option.filter, same]

theorem onPath_apart {β : Type} {path other : Path} (value : β) (apart : (other == path) = false) :
    onPath path (some (other, value)) = none := by simp [onPath, Option.filter, apart]

@[simp]
theorem onPath_none {β : Type} (path : Path) : onPath path (none : Option (Path × β)) = none := rfl

theorem onPath_eq_some {β : Type} {path : Path} {pair : Path × β} {value : β}
    (told : onPath path (some pair) = some value) : pair.2 = value := by
  cases same : pair.1 == path with
  | true => exact Option.some.inj ((onPath_same pair.2 same).symm.trans told)
  | false => cases (onPath_apart pair.2 same).symm.trans told

theorem onPath_map {β γ : Type} (path : Path) (change : β → γ) (told : Option (Path × β)) :
    onPath path (told.map fun pair => (pair.1, change pair.2)) = (onPath path told).map change := by
  cases told with
  | none => rfl
  | some pair => cases same : pair.1 == path <;> simp [onPath, Option.filter, same]

theorem Effect.congr {number : Nat} {path other : Path} {deed : Option Deed} {held next : View}
    {phase later : Option Phase} (effect : Effect number path deed held phase next later)
    (same : (path == other) = true) : Effect number other deed held phase next later := by
  cases effect with
  | recorded _ request known absent marked => exact .recorded _ request (BEq.trans known same) absent marked
  | first _ request known absent free => exact .first _ request (BEq.trans known same) absent free
  | admitted _ request known absent free => exact .admitted _ request (BEq.trans known same) absent free
  | kept _ handle known => exact .kept _ handle (BEq.trans known same)
  | _ => constructor <;> assumption

def Works (number : Nat) (deed : Option (Path × Deed)) (store : Store α κ) (stake : Option (Path × Phase))
    (next : Store α κ) (later : Option (Path × Phase)) : Prop :=
  ∀ path, Effect number path (onPath path deed) (view store path) (onPath path stake) (view next path)
    (onPath path later)

namespace Works

variable {number : Nat} {store next : Store α κ}

theorem idle (stake : Option (Path × Phase)) (same : ∀ path, view next path = view store path) :
    Works number none store stake next stake := by
  intro path
  rw [same path]
  exact .idle _ _

theorem of_effect (path : Path) {deed : Option Deed} {phase later : Option Phase}
    (effect : Effect number path deed (view store path) phase (view next path) later)
    (apart : ∀ other, (path == other) = false → view next other = view store other) :
    Works number (deed.map (path, ·)) store (phase.map (path, ·)) next (later.map (path, ·)) := by
  have told {β : Type} (value : Option β) (other : Path) :
      onPath other (value.map (path, ·)) = if path == other then value else none := by
    cases value <;> by_cases same : (path == other) = true <;> simp [onPath, Option.filter, same]
  intro other
  simp only [told]
  by_cases same : (path == other) = true
  · simp only [same, if_true, ← view_congr store same, ← view_congr next same]
    exact effect.congr same
  · simp only [same, Bool.false_eq_true, if_false, apart other (by simpa using same)]
    exact .idle _ _

/-- Another spelling of the path under which the frame goes on makes no difference. -/
theorem respell {path other : Path} {deed : Option (Path × Deed)} {stake : Option (Path × Phase)} {phase : Phase}
    (works : Works number deed store stake next (some (path, phase))) (same : (path == other) = true) :
    Works number deed store stake next (some (other, phase)) := by
  intro third
  have told : onPath third (some (other, phase)) = onPath third (some (path, phase)) := by
    by_cases here : (other == third) = true
    · rw [onPath_same _ here, onPath_same _ (BEq.trans same here)]
    · have gone : ¬(path == third) = true := fun found => here (BEq.trans (BEq.symm same) found)
      rw [onPath_apart _ (by simpa using here), onPath_apart _ (by simpa using gone)]
  rw [told]
  exact works third

end Works

/-- A frame that goes on leaves the queue as it is, and does what its deed tells. -/
def Frame.Goes (background : Bool) (store : Store α κ) (choice : Choice α κ) (frame : Frame α κ) (next : Store α κ)
    (left : Option (Frame α κ)) : Prop :=
  next.queue = store.queue ∧
    Works frame.number (frame.deed? background store choice) store frame.stake? next (left.bind Frame.stake?)

namespace Frame.Goes

variable {background : Bool} {store next : Store α κ} {choice : Choice α κ} {frame : Frame α κ}
  {left : Option (Frame α κ)}

theorem of_effect (path : Path) (deed : Option Deed) (phase later : Option Phase) (queue : next.queue = store.queue)
    (told : frame.deed? background store choice = deed.map (path, ·)) (owned : frame.stake? = phase.map (path, ·))
    (owns : left.bind Frame.stake? = later.map (path, ·))
    (effect : Effect frame.number path deed (view store path) phase (view next path) later)
    (apart : ∀ other, (path == other) = false → view next other = view store other) :
    frame.Goes background store choice next left := by
  refine ⟨queue, ?_⟩
  rw [told, owned, owns]
  exact Works.of_effect path effect apart

theorem of_change {spelled : Path} (path : Path) (deed : Option Deed) (phase later : Option Phase)
    (change : View → View) (same : (spelled == path) = true) (queue : next.queue = store.queue)
    (told : frame.deed? background store choice = deed.map (path, ·)) (owned : frame.stake? = phase.map (path, ·))
    (owns : left.bind Frame.stake? = later.map (path, ·))
    (changed : ∀ other, view next other = if spelled == other then change (view store other) else view store other)
    (effect : Effect frame.number path deed (view store path) phase (change (view store path)) later) :
    frame.Goes background store choice next left := by
  refine .of_effect path deed phase later queue told owned owns ?_ fun other apart => ?_
  · rwa [changed, if_pos same]
  · rw [changed, apart_of_same same apart, if_neg Bool.false_ne_true]

theorem of_idle (queue : next.queue = store.queue) (told : frame.deed? background store choice = none)
    (owns : left.bind Frame.stake? = frame.stake?) (same : ∀ path, view next path = view store path) :
    frame.Goes background store choice next left := by
  refine ⟨queue, ?_⟩
  rw [told, owns]
  exact Works.idle _ same

end Frame.Goes

section Ways

variable {frame : Frame α κ} {store next : Store α κ} {left : Option (Frame α κ)} {warnings : List Warning}

theorem after?_give (giving : Giving) (accepted : Bool)
    (made : frame.after? (giving.give store accepted warnings) = some (next, left)) :
    next = store ∧ left.bind Frame.stake? = none := by
  cases giving <;> cases made <;> exact ⟨rfl, rfl⟩

theorem after?_afterBuild {owner : Owner κ} {path : Path} (owned : owner.path? = some path) (built : Option Handle)
    (made : frame.after? (owner.afterBuild store built warnings) = some (next, left)) :
    next = store ∧ left.bind Frame.stake? = some (path, .busy) := by
  cases owner <;> cases owned <;> cases made <;> exact ⟨rfl, rfl⟩

theorem after?_afterRefresh {owner : Owner κ} {path : Path} (owned : owner.path? = some path)
    (made : frame.after? (owner.afterRefresh store warnings) = some (next, left)) :
    next = store ∧ left.bind Frame.stake? = some (path, .busy) := by
  cases owner <;> cases owned <;> cases made <;> exact ⟨rfl, rfl⟩

theorem after?_afterPanic {owner : Owner κ} {path : Path} (owned : owner.path? = some path)
    (made : frame.after? (owner.afterPanic store) = some (next, left)) :
    next = store ∧ left.bind Frame.stake? = some (path, .leaving frame.number) := by
  rw [Owner.afterPanic, owned] at made
  cases made
  exact ⟨rfl, rfl⟩

theorem after?_finish {owner : Owner κ} (built : Option Handle)
    (made : frame.after? (owner.finish store built) = some (next, left)) :
    next = store ∧ left.bind Frame.stake? = none := by
  cases owner with
  | job work =>
    cases called : work.callback <;> simp only [Owner.finish, called] at made <;> cases made <;> exact ⟨rfl, rfl⟩
  | first request => cases made; exact ⟨rfl, rfl⟩
  | alone => cases made; exact ⟨rfl, rfl⟩

theorem after?_takeOver {owner : Owner κ} {path : Path} (owned : owner.path? = some path) (built : Option Handle)
    (request : Request) (made : frame.after? (owner.takeOver store built request) = some (next, left)) :
    next = store ∧ left.bind Frame.stake? =
      if ownedByJob owner then some (path, .wanted request (some frame.number))
      else some (request.path, .wanted request none) := by
  cases owner <;> cases owned <;> cases made <;> exact ⟨rfl, rfl⟩

end Ways

section Activities

variable {background : Bool} {store next : Store α κ} {number : Nat} {task : Task κ} {choice : Choice α κ}
  {turn : Turn α κ} {left : Option (Frame α κ)}

theorem goes_lookUp {request : Request} (rule : Rule background store (.lookUp request) choice turn)
    (made : (⟨number, task, .lookUp request⟩ : Frame α κ).after? turn = some (next, left)) :
    (⟨number, task, .lookUp request⟩ : Frame α κ).Goes background store choice next left := by
  cases rule with
  | hit _ handle found serves =>
    cases made
    exact .of_effect request.path (some (.hit handle)) none none rfl
      (by simp [Frame.deed?, deedOf, Store.lookUp, found, serves]) rfl rfl (.hit _ _ found) (fun _ _ => rfl)
  | stale _ handle found unfit =>
    cases made
    exact .of_change request.path (some (.dropped handle)) none none (fun held => { held with entry := none }) BEq.rfl rfl
      (by simp [Frame.deed?, deedOf, Store.lookUp, found, unfit]) rfl rfl (view_evict store request.path)
      (.dropped _ handle found)
  | busy _ absent marked =>
    cases made
    exact .of_change request.path (some (.recorded request)) none none (fun held => { held with pending := some request })
      BEq.rfl rfl (by simp [Frame.deed?, deedOf, Store.lookUp, absent, marked]) rfl rfl (view_record store request)
      (.recorded _ request BEq.rfl absent marked)
  | first _ absent free =>
    cases made
    exact .of_change request.path (some (.first request)) none (some (.due request number))
      (fun held => { held with marked := true }) BEq.rfl (queue_mark store request.path)
      (by simp [Frame.deed?, deedOf, Store.lookUp, absent, free]) rfl rfl (view_mark store request.path)
      (.first _ request BEq.rfl absent free)

theorem goes_admitParse {job : Job κ} {giving : Giving}
    (rule : Rule background store (.admitParse job giving) choice turn)
    (made : (⟨number, task, .admitParse job giving⟩ : Frame α κ).after? turn = some (next, left)) :
    (⟨number, task, .admitParse job giving⟩ : Frame α κ).Goes background store choice next left := by
  cases rule with
  | present _ _ handle found =>
    obtain ⟨rfl, leaves⟩ := after?_give giving false made
    exact .of_effect job.request.path (some (.present handle)) none none rfl (by simp [Frame.deed?, deedOf, found]) rfl
      leaves (.present _ handle found) (fun _ _ => rfl)
  | record _ _ absent marked =>
    obtain ⟨rfl, leaves⟩ := after?_give giving false made
    exact .of_change job.request.path (some (.recorded job.request)) none none
      (fun held => { held with pending := some job.request }) BEq.rfl rfl
      (by simp [Frame.deed?, deedOf, absent, marked]) rfl leaves (view_record store job.request)
      (.recorded _ job.request BEq.rfl absent marked)
  | parse _ _ absent free =>
    cases made
    exact .of_change job.request.path (some (.admitted job.request)) none (some (.wanted job.request none))
      (fun held => { held with marked := true }) BEq.rfl (queue_mark store job.request.path)
      (by simp [Frame.deed?, deedOf, absent, free]) rfl rfl (view_mark store job.request.path)
      (.admitted _ job.request BEq.rfl absent free)

theorem goes_admitReparse {job : Job κ} {giving : Giving}
    (rule : Rule background store (.admitReparse job giving) choice turn)
    (made : (⟨number, task, .admitReparse job giving⟩ : Frame α κ).after? turn = some (next, left)) :
    (⟨number, task, .admitReparse job giving⟩ : Frame α κ).Goes background store choice next left := by
  cases rule with
  | spare _ _ needless =>
    have admitted : (store.admitReparse job.request.path).1 = false := by
      rcases admitReparse_cases store job.request.path with ⟨_, told⟩ | ⟨there, free, _⟩
      · rw [told]
      · rcases needless with absent | marked
        · simp [absent] at there
        · simp [marked] at free
    obtain ⟨rfl, leaves⟩ := after?_give giving false made
    exact .of_idle rfl (by simp [Frame.deed?, deedOf, admitted]) leaves (fun _ => rfl)
  | reparse _ _ there free =>
    cases made
    have admitted : (store.admitReparse job.request.path).1 = true := by
      rcases admitReparse_cases store job.request.path with ⟨absent | marked, _⟩ | ⟨_, _, told⟩
      · simp [absent] at there
      · simp [marked] at free
      · rw [told]
    exact .of_change job.request.path (some .refreshing) none (some .busy) (fun held => { held with marked := true })
      BEq.rfl (queue_mark store job.request.path) (by simp [Frame.deed?, deedOf, admitted]) rfl rfl
      (view_mark store job.request.path) (.refreshing _ there free)

theorem jobStake_waits (job : Job κ) :
    (jobStake job).2 = .busy ∨ ∃ request, (jobStake job).2 = .wanted request none := by
  cases kind : job.kind <;> simp [jobStake, kind]

theorem jobStake_framed (job : Job κ) : (jobStake job).2.framed = false := by
  cases kind : job.kind <;> simp [jobStake, kind, Phase.framed]

theorem goes_enqueue {job : Job κ} {giving : Giving} (rule : Rule background store (.enqueue job giving) choice turn)
    (made : (⟨number, task, .enqueue job giving⟩ : Frame α κ).after? turn = some (next, left))
    (lost : (store.enqueue background job).1 ≠ .accepted) :
    (⟨number, task, .enqueue job giving⟩ : Frame α κ).Goes background store choice next left := by
  cases rule with
  | accepted _ _ queued => exact absurd queued lost
  | full _ _ queued | closed _ _ queued =>
    cases made
    exact .of_effect job.request.path (some .refused) (some (jobStake job).2) (some (.leaving number)) rfl
      (by simp [Frame.deed?, deedOf, queued]) rfl rfl (.refused _ _ (jobStake_waits job)) (fun _ _ => rfl)
  | awaitRoom => cases made

theorem goes_load {request : Request} {owner : Owner κ} {path : Path} (owned : owner.path? = some path)
    (same : (request.path == path) = true) (rule : Rule background store (.load request owner) choice turn)
    (made : (⟨number, task, .load request owner⟩ : Frame α κ).after? turn = some (next, left)) :
    (⟨number, task, .load request owner⟩ : Frame α κ).Goes background store choice next left := by
  have stake : (⟨number, task, .load request owner⟩ : Frame α κ).stake? =
      some (path, .wanted request (some number)) := by simp [Frame.stake?, owned]
  have entry : (view store path).entry = store.peek request.path := by rw [← view_congr store same]; rfl
  cases rule with
  | served _ _ handle found serves =>
    obtain ⟨rfl, leaves⟩ := after?_afterBuild owned _ made
    exact .of_effect path (some (.served handle)) (some (.wanted request (some number))) (some .busy) rfl
      (by simp [Frame.deed?, deedOf, Store.takeStock, found, serves, owned]) stake leaves
      (.served _ request handle (entry.trans found) serves) (fun _ _ => rfl)
  | replaced _ _ handle found unfit =>
    cases made
    refine .of_change path (some .stocked) (some (.wanted request (some number))) (some (.due request number))
      (fun held => { held with entry := none }) same rfl
      (by simp [Frame.deed?, deedOf, Store.takeStock, found, unfit, owned]) stake (by simp [Frame.stake?, owned])
      (view_evict store request.path) (.stocked _ request fun other held => ?_)
    rw [entry, found] at held
    exact Option.some.inj held ▸ unfit
  | absent _ _ absent =>
    cases made
    refine .of_effect path (some .stocked) (some (.wanted request (some number))) (some (.due request number)) rfl
      (by simp [Frame.deed?, deedOf, Store.takeStock, absent, owned]) stake (by simp [Frame.stake?, owned]) ?_
      (fun _ _ => rfl)
    have nothing : (view store path).entry = none := entry.trans absent
    have effect : Effect number path (some .stocked) (view store path) (some (.wanted request (some number)))
        { view store path with entry := none } (some (.due request number)) := .stocked _ request (by simp [nothing])
    rwa [View.erase_entry nothing] at effect

theorem goes_parsing {request : Request} {owner : Owner κ} {path : Path} (owned : owner.path? = some path)
    (rule : Rule background store (.parsing request owner) choice turn)
    (made : (⟨number, task, .parsing request owner⟩ : Frame α κ).after? turn = some (next, left)) :
    (⟨number, task, .parsing request owner⟩ : Frame α κ).Goes background store choice next left := by
  have stake : (⟨number, task, .parsing request owner⟩ : Frame α κ).stake? = some (path, .building request number) := by
    simp [Frame.stake?, owned]
  cases rule with
  | askParse => cases made
  | parsed =>
    cases made
    exact .of_idle rfl rfl rfl (fun _ => rfl)
  | parseFailed =>
    cases made
    exact .of_effect path (some .failed) (some (.building request number)) (some .busy) rfl
      (by simp [Frame.deed?, answered, owned]) stake (by simp [Frame.stake?, owned]) (.failed _ request) (fun _ _ => rfl)
  | parsePanicked =>
    obtain ⟨rfl, leaves⟩ := after?_afterPanic owned made
    exact .of_effect path (some .panicked) (some (.building request number)) (some (.leaving number)) rfl
      (by simp [Frame.deed?, answered, owned]) stake leaves (.panicked _ _ (.inr ⟨request, rfl⟩)) (fun _ _ => rfl)

theorem goes_keep {request : Request} {artifact : α} {owner : Owner κ} {path : Path} (owned : owner.path? = some path)
    (same : (request.path == path) = true) (rule : Rule background store (.keep request artifact owner) choice turn)
    (made : (⟨number, task, .keep request artifact owner⟩ : Frame α κ).after? turn = some (next, left)) :
    (⟨number, task, .keep request artifact owner⟩ : Frame α κ).Goes background store choice next left := by
  cases rule
  have behind : next = (store.keep request artifact).2 ∧ left.bind Frame.stake? = some (path, .busy) :=
    after?_afterBuild owned _ made
  obtain ⟨rfl, leaves⟩ := behind
  exact .of_change path (some (.kept (store.keep request artifact).1)) (some (.building request number)) (some .busy)
    (fun held => { held with entry := some (store.keep request artifact).1 }) same rfl
    (by simp [Frame.deed?, deedOf, owned]) (by simp [Frame.stake?, owned]) leaves (view_keep store request artifact)
    (.kept _ (store.keep request artifact).1 same)

theorem goes_settle {owner : Owner κ} {built : Option Handle} {path : Path} (keyed : Keyed store)
    (owned : owner.path? = some path) (rule : Rule background store (.settle owner built) choice turn)
    (made : (⟨number, task, .settle owner built⟩ : Frame α κ).after? turn = some (next, left)) :
    (⟨number, task, .settle owner built⟩ : Frame α κ).Goes background store choice next left := by
  have stake : (⟨number, task, .settle owner built⟩ : Frame α κ).stake? = some (path, .busy) := by
    simp [Frame.stake?, owned]
  cases rule with
  | settleAlone _ _ alone => cases owned.symm.trans alone
  | settle _ _ other own kept =>
    cases owned.symm.trans own
    obtain ⟨rfl, leaves⟩ := after?_finish built made
    obtain ⟨served, changed⟩ := settle_served store path kept
    refine .of_effect path (some (.cleared (store.pending.get? path) (store.peek path))) (some .busy) none
      (queue_settle store path) (by simp [Frame.deed?, deedOf, owned, kept]) stake leaves ?_
      (view_settle_apart store path)
    rw [changed]
    exact .cleared _ served
  | takeOver _ _ other request own given =>
    cases owned.symm.trans own
    obtain ⟨rfl, leaves⟩ := after?_takeOver owned built request made
    obtain ⟨put, stale, changed⟩ := settle_stale store path request given
    have same : (request.path == path) = true := keyed.pending path request put
    have effect : Effect number path (some (.tookOver request (store.peek path) (ownedByJob owner))) (view store path)
        (some .busy) (view (store.settle path).2 path)
        (some (.wanted request (if ownedByJob owner then some number else none))) := by
      rw [changed]
      exact .tookOver _ request _ put stale
    refine ⟨queue_settle store path, ?_⟩
    have works := Works.of_effect path effect (view_settle_apart store path)
    have told : Frame.deed? background store (⟨number, task, .settle owner built⟩ : Frame α κ) .proceed =
        some (path, .tookOver request (store.peek path) (ownedByJob owner)) := by
      simp [Frame.deed?, deedOf, owned, given]
    rw [stake, leaves, told]
    cases byJob : ownedByJob owner with
    | true => simpa [byJob] using works
    | false =>
      -- The job that is queued spells the path as the request put down does.
      have respelt := works.respell (BEq.symm same)
      simpa [byJob] using respelt

theorem goes_evict {handle : Handle} {owner : Owner κ} {path : Path} (owned : owner.path? = some path)
    (same : (handle.request.path == path) = true) (rule : Rule background store (.evict handle owner) choice turn)
    (made : (⟨number, task, .evict handle owner⟩ : Frame α κ).after? turn = some (next, left)) :
    (⟨number, task, .evict handle owner⟩ : Frame α κ).Goes background store choice next left := by
  cases rule
  obtain ⟨rfl, leaves⟩ := after?_afterRefresh owned made
  have stake : (⟨number, task, .evict handle owner⟩ : Frame α κ).stake? = some (path, .spoilt) := by
    simp [Frame.stake?, owned]
  rcases evictIfCurrent_cases store handle with ⟨current, found, current_one, gone⟩ | ⟨apart, stays⟩
  · rw [gone]
    exact .of_change path (some (.evicted true)) (some .spoilt) (some .busy) (fun held => { held with entry := none }) same
      rfl (by simp [Frame.deed?, deedOf, owned, found, current_one]) stake leaves (view_evict store handle.request.path)
      (.evicted _ true)
  · rw [stays]
    exact .of_effect path (some (.evicted false)) (some .spoilt) (some .busy) rfl
      (by simp [Frame.deed?, deedOf, owned, apart]) stake leaves (.evicted _ false) (fun _ _ => rfl)

theorem goes_using {handle : Handle} {use : Use κ} (fits : Fits (.using handle use : Activity α κ))
    (rule : Rule background store (.using handle use) choice turn)
    (made : (⟨number, task, .using handle use⟩ : Frame α κ).after? turn = some (next, left)) :
    (⟨number, task, .using handle use⟩ : Frame α κ).Goes background store choice next left := by
  cases rule with
  | askUse => cases made
  | refreshFailed _ request owner =>
    obtain ⟨path, owned, _⟩ := fits _ _ rfl
    cases made
    exact .of_effect path (some .refreshFailed) (some .busy) (some .spoilt) rfl
      (by simp [Frame.deed?, answered, owned]) (by simp [Frame.stake?, owned]) (by simp [Frame.stake?, owned])
      (.refreshFailed _) (fun _ _ => rfl)
  | refreshPanicked _ request owner =>
    obtain ⟨path, owned, _⟩ := fits _ _ rfl
    have behind : next = store.unlock handle.number ∧ left.bind Frame.stake? = some (path, .leaving number) :=
      after?_afterPanic owned made
    obtain ⟨rfl, leaves⟩ := behind
    exact .of_effect path (some .panicked) (some .busy) (some (.leaving number)) rfl
      (by simp [Frame.deed?, answered, owned]) (by simp [Frame.stake?, owned]) leaves (.panicked _ _ (.inl rfl))
      (fun _ _ => rfl)
  | _ =>
    cases made
    exact .of_idle rfl rfl rfl (fun _ => rfl)

theorem goes_release {activity : Activity α κ} {path : Path} (next_store : next = store.release path)
    (told : (⟨number, task, activity⟩ : Frame α κ).deed? background store choice = some (path, .released))
    (owned : (⟨number, task, activity⟩ : Frame α κ).stake? = some (path, .leaving number))
    (leaves : left.bind Frame.stake? = none) :
    (⟨number, task, activity⟩ : Frame α κ).Goes background store choice next left := by
  subst next_store
  exact .of_change path (some .released) (some (.leaving number)) none
    (fun held => { held with marked := false, pending := none }) BEq.rfl rfl told owned leaves (view_release store path)
    (.released _)

/-- Whatever the engine and the callbacks answer, a frame does what its deed tells. -/
theorem goes_of_turn {frame : Frame α κ} {choice : Choice α κ} {turn : Turn α κ} (keyed : Keyed store)
    (fits : Fits frame.activity) (chosen : turn? background store frame.activity choice = some turn)
    (made : frame.after? turn = some (next, left))
    (lost : ∀ job giving, frame.activity = .enqueue job giving → (store.enqueue background job).1 ≠ .accepted) :
    frame.Goes background store choice next left := by
  obtain ⟨number, task, activity⟩ := frame
  have rule : Rule background store activity choice turn := rule_of_turn chosen
  cases activity with
  | lookUp => exact goes_lookUp rule made
  | admitParse => exact goes_admitParse rule made
  | admitReparse => exact goes_admitReparse rule made
  | enqueue job giving => exact goes_enqueue rule made (lost job giving rfl)
  | withdraw path giving =>
    cases rule
    obtain ⟨same, leaves⟩ := after?_give giving false made
    exact goes_release same rfl rfl leaves
  | unwind path =>
    cases rule
    cases made
    exact goes_release rfl rfl rfl rfl
  | load request owner =>
    obtain ⟨path, owned, all⟩ := fits owner _ rfl
    exact goes_load owned (all request.path (by simp)) rule made
  | build request owner =>
    obtain ⟨path, owned, _⟩ := fits owner _ rfl
    cases rule
    cases made
    exact .of_effect path (some (.called request)) (some (.due request number)) (some (.building request number)) rfl
      (by simp [Frame.deed?, deedOf, owned]) (by simp [Frame.stake?, owned]) (by simp [Frame.stake?, owned])
      (.called _ request) (fun _ _ => rfl)
  | parsing request owner =>
    obtain ⟨path, owned, _⟩ := fits owner _ rfl
    exact goes_parsing owned rule made
  | keep request artifact owner =>
    obtain ⟨path, owned, all⟩ := fits owner _ rfl
    exact goes_keep owned (all request.path (by simp)) rule made
  | noteFailure request error owner =>
    obtain ⟨path, owned, _⟩ := fits owner _ rfl
    cases rule
    obtain ⟨rfl, leaves⟩ := after?_afterBuild owned none made
    exact .of_idle rfl rfl (by simp [leaves, Frame.stake?, owned]) (fun _ => rfl)
  | settle owner built =>
    obtain ⟨path, owned, _⟩ := fits owner _ rfl
    exact goes_settle keyed owned rule made
  | evict handle owner =>
    obtain ⟨path, owned, all⟩ := fits owner _ rfl
    exact goes_evict owned (all handle.request.path (by simp)) rule made
  | «using» => exact goes_using fits rule made
  | find request owner =>
    obtain ⟨path, owned, _⟩ := fits owner _ rfl
    cases rule with
    | find =>
      cases made
      exact .of_idle rfl rfl rfl (fun _ => rfl)
    | findNothing =>
      obtain ⟨rfl, leaves⟩ := after?_afterRefresh owned made
      exact .of_idle rfl rfl (by simp [leaves, Frame.stake?, owned]) (fun _ => rfl)
  | noteReparse handle request failure owner =>
    obtain ⟨path, owned, _⟩ := fits owner _ rfl
    cases rule with
    | noteReparse =>
      obtain ⟨rfl, leaves⟩ := after?_afterRefresh owned made
      exact .of_idle rfl rfl (by simp [leaves, Frame.stake?, owned]) (fun _ => rfl)
    | noteReparseFailed =>
      cases made
      exact .of_idle rfl rfl rfl (fun _ => rfl)
  | acquire handle use =>
    cases use <;> cases rule <;> cases made <;> exact .of_idle rfl rfl rfl (fun _ => rfl)
  | _ =>
    cases rule <;> cases made <;> exact .of_idle rfl rfl rfl (fun _ => rfl)

end Activities

end UnitCache.Interleaving
