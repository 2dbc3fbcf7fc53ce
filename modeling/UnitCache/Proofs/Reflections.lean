import UnitCache.Proofs.Mirrors
/-!
What is begun for one path goes on in a cache that knows of this path only as it does in one that knows of many. So each
rule for what a frame does is mirrored, one to one.
-/
namespace UnitCache.Interleaving

variable {α κ : Type}

section Turns

variable {background : Bool} {store alone : Store α κ} {activity : Activity α κ} {choice : Choice α κ} {turn : Turn α κ}
  {number : Nat → Nat} {owner : Owner κ} {built : Option Handle} {warnings : List Warning}

theorem turn?_of_rule (rule : Rule background store activity choice turn) :
    turn? background store activity choice = some turn := by
  cases rule with
  | hit request handle found serves => simp [turn?, Activity.step, Store.lookUp, found, serves]
  | stale request handle found unfit => simp [turn?, Activity.step, Store.lookUp, found, unfit]
  | busy request absent marked => simp [turn?, Activity.step, Store.lookUp, absent, marked]
  | first request absent free => simp [turn?, Activity.step, Store.lookUp, absent, free]
  | present job giving handle found =>
    rcases admitParse_cases store job.request with ⟨_, _, told⟩ | ⟨absent, _⟩ | ⟨absent, _⟩
    · simp [turn?, Activity.step, told]
    all_goals simp [absent] at found
  | record job giving absent marked =>
    rcases admitParse_cases store job.request with ⟨_, found, _⟩ | ⟨_, _, told⟩ | ⟨_, free, _⟩
    · simp [absent] at found
    · simp [turn?, Activity.step, told]
    · simp [marked] at free
  | parse job giving absent free =>
    rcases admitParse_cases store job.request with ⟨_, found, _⟩ | ⟨_, marked, _⟩ | ⟨_, _, told⟩
    · simp [absent] at found
    · simp [free] at marked
    · simp [turn?, Activity.step, told]
  | spare job giving needless =>
    rcases admitReparse_cases store job.request.path with ⟨_, told⟩ | ⟨there, free, _⟩
    · simp [turn?, Activity.step, told]
    · rcases needless with absent | marked
      · simp [absent] at there
      · simp [marked] at free
  | reparse job giving there free =>
    rcases admitReparse_cases store job.request.path with ⟨needless, _⟩ | ⟨_, _, told⟩
    · rcases needless with absent | marked
      · simp [absent] at there
      · simp [marked] at free
    · simp [turn?, Activity.step, told]
  | accepted job giving queued | full job giving queued | closed job giving queued | awaitRoom job giving queued =>
    rcases enqueue_cases store background job with told | told | told | told <;> rw [told] at queued <;> cases queued
    simp [turn?, Activity.step, told]
  | reorder requests left queued same => simp [turn?, same]
  | served request owner handle found serves => simp [turn?, Activity.step, Store.takeStock, found, serves]
  | replaced request owner handle found unfit => simp [turn?, Activity.step, Store.takeStock, found, unfit]
  | absent request owner absent => simp [turn?, Activity.step, Store.takeStock, absent]
  | settleAlone owner built alone => simp [turn?, Activity.step, alone]
  | settle owner built path owned kept =>
    cases settled : store.settle path with
    | mk given after =>
      rw [settled] at kept
      simp [turn?, Activity.step, owned, settled, show given = none from kept]
  | takeOver owner built path request owned given =>
    cases settled : store.settle path with
    | mk put after =>
      rw [settled] at given
      simp [turn?, Activity.step, owned, settled, show put = some request from given]
  | find request owner handle found serves => simp [turn?, Activity.step, found, serves]
  | findNothing request owner missing =>
    cases found : store.peek request.path with
    | none => simp [turn?, Activity.step, found]
    | some handle => simp [turn?, Activity.step, found, missing handle found]
  | askUnsaved query unsaved => simp [turn?, Activity.step, unsaved]
  | askNothing query saved absent => simp [turn?, Activity.step, saved, absent]
  | ask query handle saved found => simp [turn?, Activity.step, saved, found]
  | awaitUnit handle use taken => simp [turn?, Activity.step, taken]
  | hold handle free => simp [turn?, Activity.step, free]
  | acquire handle use free other =>
    cases use with
    | hold => exact absurd rfl other
    | _ => simp [turn?, Activity.step, free]
  | askUse handle use call asks => simp [turn?, Activity.step, asks]
  | _ => rfl

section Over

variable (number store alone)

@[simp]
theorem over_give (giving : Giving) (accepted : Bool) (warnings : List Warning) :
    (giving.give store accepted warnings : Turn α κ).over number alone =
      (giving.renumber number).give alone accepted warnings := by
  cases giving <;> rfl

@[simp]
theorem over_afterBuild (owner : Owner κ) (built : Option Handle) (warnings : List Warning) :
    (owner.afterBuild store built warnings).over number alone =
      owner.afterBuild alone (built.map (Handle.renumber number)) warnings := by
  cases owner <;> rfl

@[simp]
theorem over_afterRefresh (owner : Owner κ) (warnings : List Warning) :
    (owner.afterRefresh store warnings).over number alone = owner.afterRefresh alone warnings := by
  cases owner <;> rfl

@[simp]
theorem over_afterPanic (owner : Owner κ) : (owner.afterPanic store).over number alone = owner.afterPanic alone := by
  cases owner <;> rfl

@[simp]
theorem over_finish (owner : Owner κ) (built : Option Handle) :
    (owner.finish store built).over number alone = owner.finish alone (built.map (Handle.renumber number)) := by
  cases owner with
  | job work =>
    cases called : work.callback <;> simp [Owner.finish, called, Turn.over, Activity.renumber, Outcome.renumber]
  | _ => rfl

@[simp]
theorem over_takeOver (owner : Owner κ) (built : Option Handle) (request : Request) :
    (owner.takeOver store built request).over number alone =
      owner.takeOver alone (built.map (Handle.renumber number)) request := by
  cases owner <;> rfl

end Over

end Turns

section Seen

variable {path : Path} {mine : Nat → Bool} {store alone : Store α κ} {place : Path}

theorem Restricts.peek (restricts : Restricts path mine store alone) (own : (place == path) = true) :
    alone.peek place = (store.peek place).map (Handle.renumber (rank mine)) :=
  congrArg View.entry (restricts.view_of_on (BEq.symm own))

theorem Restricts.found (restricts : Restricts path mine store alone) (own : (place == path) = true) {handle : Handle}
    (there : store.peek place = some handle) : alone.peek place = some (handle.renumber (rank mine)) := by
  rw [restricts.peek own, there, Option.map_some]

theorem Restricts.missing (restricts : Restricts path mine store alone) (own : (place == path) = true)
    (absent : store.peek place = none) : alone.peek place = none := by
  rw [restricts.peek own, absent, Option.map_none]

theorem Restricts.isParsing (restricts : Restricts path mine store alone) (own : (place == path) = true) :
    alone.isParsing place = store.isParsing place := congrArg View.marked (restricts.view_of_on (BEq.symm own))

theorem Restricts.settle (restricts : Restricts path mine store alone) (own : (place == path) = true) :
    (alone.settle place).1 = (store.settle place).1 := by
  have mine_settled : (alone.settle place).1 = (view alone place).settle.1 := congrArg Prod.fst (settle_view alone place)
  have all_settled : (store.settle place).1 = (view store place).settle.1 := congrArg Prod.fst (settle_view store place)
  rw [mine_settled, all_settled, restricts.view_of_on (BEq.symm own), settle_renumber]

theorem Restricts.isLocked (restricts : Restricts path mine store alone) {number : Nat} (own : mine number = true) :
    alone.isLocked (rank mine number) = store.isLocked number := by
  rw [Store.isLocked, restricts.cells number own, Store.isLocked]

end Seen

section Sections

variable {path : Path} {mine : Nat → Bool} {store alone : Store α κ} {place : Path} {handle : Handle}

theorem Restricts.count_on (restricts : Restricts path mine store alone) (change : Counters → Counters) :
    Restricts path mine (store.count change) (alone.count change) := restricts.on (.counts change) nofun nofun nofun

theorem Restricts.mark (restricts : Restricts path mine store alone) (own : (place == path) = true) :
    Restricts path mine (store.mark place) (alone.mark place) :=
  restricts.on (.marks place) (by rintro _ ⟨⟩; exact own) nofun nofun

theorem Restricts.record (restricts : Restricts path mine store alone) {request : Request}
    (own : (request.path == path) = true) : Restricts path mine (store.record request) (alone.record request) :=
  restricts.on (.records request) (by rintro _ ⟨⟩; exact own) nofun nofun

theorem Restricts.release (restricts : Restricts path mine store alone) (own : (place == path) = true) :
    Restricts path mine (store.release place) (alone.release place) :=
  restricts.on (.releases place) (by rintro _ ⟨⟩; exact own) nofun nofun

theorem Restricts.settled (restricts : Restricts path mine store alone) (own : (place == path) = true) :
    Restricts path mine (store.settle place).2 (alone.settle place).2 :=
  restricts.on (.settles place) (by rintro _ ⟨⟩; exact own) nofun nofun

theorem Restricts.evict (restricts : Restricts path mine store alone) (own : (place == path) = true) :
    Restricts path mine (store.evict place) (alone.evict place) :=
  restricts.on (.evicts place) (by rintro _ ⟨⟩; exact own) nofun nofun

theorem Restricts.queue (restricts : Restricts path mine store alone) {job : Job κ}
    (own : (job.request.path == path) = true) :
    Restricts path mine { store with queue := { store.queue with jobs := store.queue.jobs ++ [job] } }
      { alone with queue := { alone.queue with jobs := alone.queue.jobs ++ [job] } } :=
  restricts.on (.queues job) (by rintro _ ⟨⟩; exact own) nofun nofun

theorem Restricts.keep (restricts : Restricts path mine store alone) {request : Request} (artifact : α)
    (own : (request.path == path) = true) (fresh : mine store.cells.length = true) :
    Restricts path mine (store.keep request artifact).2 (alone.keep request artifact).2 :=
  restricts.on (.keeps request artifact) (by rintro _ ⟨⟩; exact own) nofun fun _ _ _ => fresh

theorem Restricts.lock (restricts : Restricts path mine store alone) (own : (handle.request.path == path) = true)
    (unit : mine handle.number = true) :
    Restricts path mine (store.lock handle.number) (alone.lock (rank mine handle.number)) :=
  restricts.on (.locks handle) (by rintro _ ⟨⟩; exact own) (by rintro _ ⟨⟩; exact unit) nofun

theorem Restricts.unlock (restricts : Restricts path mine store alone) (own : (handle.request.path == path) = true)
    (unit : mine handle.number = true) :
    Restricts path mine (store.unlock handle.number) (alone.unlock (rank mine handle.number)) :=
  restricts.on (.unlocks handle) (by rintro _ ⟨⟩; exact own) (by rintro _ ⟨⟩; exact unit) nofun

theorem Restricts.replace (restricts : Restricts path mine store alone) (own : (handle.request.path == path) = true)
    (unit : mine handle.number = true) (artifact : α) :
    Restricts path mine ((store.unlock handle.number).replaceArtifact handle.number artifact)
      ((alone.unlock (rank mine handle.number)).replaceArtifact (rank mine handle.number) artifact) :=
  restricts.on (.replaces handle artifact) (by rintro _ ⟨⟩; exact own) (by rintro _ ⟨⟩; exact unit) nofun

theorem Restricts.evictIfCurrent (restricts : Restricts path mine store alone)
    (own : (handle.request.path == path) = true) (unit : mine handle.number = true)
    (units : ∀ current, store.peek handle.request.path = some current → mine current.number = true) :
    Restricts path mine (store.evictIfCurrent handle) (alone.evictIfCurrent (handle.renumber (rank mine))) := by
  have there := restricts.peek own
  unfold Store.evictIfCurrent
  simp only [Handle.renumber]
  rw [there]
  cases found : store.peek handle.request.path with
  | none => exact restricts
  | some current =>
    have same : (rank mine current.number == rank mine handle.number) = (current.number == handle.number) := by
      rw [Bool.eq_iff_iff, beq_iff_eq, beq_iff_eq]
      exact ⟨rank_inj (units current found) unit, congrArg _⟩
    simp only [Option.map_some, Handle.renumber, same]
    split
    next => exact restricts.evict own
    next => exact restricts

end Sections

section Rules

variable {path : Path} {mine : Nat → Bool} {store alone next : Store α κ} {background own : Bool}
  {activity : Activity α κ} {choice : Choice α κ} {turn : Turn α κ}

theorem Restricts.reflected {store after : Store α κ} (restricts : Restricts path mine store after)
    (passes : PassesOn store turn) (left : storeOf? turn = some next)
    (rule : Rule own alone activity choice (turn.over (rank mine) after)) :
    ∃ after, Restricts path mine next after ∧ Rule own alone activity choice (turn.over (rank mine) after) := by
  cases passes.storeOf?.symm.trans left
  exact ⟨after, restricts, rule⟩

/-- A job for the path is queued in the same way, unless it is refused, and whoever gave it goes on. -/
theorem Restricts.reflects_giving (restricts : Restricts path mine store alone) {giving : Giving}
    (gives : activity.giving? = some giving) (all : AllOf path (names activity))
    (room : ∀ job giving, activity = .enqueue job giving →
      (store.enqueue background job).1 = .accepted ∧ (alone.enqueue own job).1 = .accepted)
    (rule : Rule background store activity choice turn) (left : storeOf? turn = some next) :
    ∃ after, Restricts path mine next after ∧
      Rule own alone (activity.renumber (rank mine)) choice (turn.over (rank mine) after) := by
  have first {place : Path} {rest : List Path} (same : names activity = place :: rest) : (place == path) = true :=
    all place (by rw [same]; exact List.mem_cons_self)
  cases rule with
  | present job giving handle found =>
    refine restricts.reflected (.of_give giving _) left ?_
    rw [over_give]
    exact .present job _ _ (restricts.found (first rfl) found)
  | record job giving absent marked =>
    refine (restricts.record (first rfl)).reflected (.of_give giving _) left ?_
    rw [over_give]
    exact .record job _ (restricts.missing (first rfl) absent) ((restricts.isParsing (first rfl)).trans marked)
  | parse job giving absent free =>
    cases left
    exact ⟨_, restricts.mark (first rfl),
      .parse job _ (restricts.missing (first rfl) absent) ((restricts.isParsing (first rfl)).trans free)⟩
  | spare job giving needless =>
    refine restricts.reflected (.of_give giving _) left ?_
    rw [over_give]
    exact .spare job _ (needless.imp (restricts.missing (first rfl)) (restricts.isParsing (first rfl)).trans)
  | reparse job giving there free =>
    cases left
    exact ⟨_, restricts.mark (first rfl), .reparse job _ (by rw [restricts.peek (first rfl), Option.isSome_map, there])
      ((restricts.isParsing (first rfl)).trans free)⟩
  | accepted job giving queued =>
    refine (restricts.queue (first rfl)).reflected (.of_give giving _) left ?_
    rw [over_give]
    exact .accepted job _ (room job giving rfl).2
  | full job giving queued | closed job giving queued =>
    rw [(room job giving rfl).1] at queued
    cases queued
  | withdraw place giving =>
    refine (restricts.release (first rfl)).reflected (.of_give giving _) left ?_
    rw [over_give]
    exact .withdraw place _
  | awaitRoom => cases left
  | _ => cases gives

theorem Restricts.reflects_acquiring (restricts : Restricts path mine store alone) {handle : Handle} {use : Use κ}
    (here : (handle.request.path == path) = true) (its_own : mine handle.number = true)
    (rule : Rule background store (.acquire handle use) choice turn) (left : storeOf? turn = some next) :
    ∃ after, Restricts path mine next after ∧
      Rule own alone ((Activity.acquire handle use).renumber (rank mine)) choice (turn.over (rank mine) after) := by
  have locked := restricts.lock here its_own
  cases rule with
  | awaitUnit => cases left
  | hold handle free =>
    cases left
    exact ⟨_, locked, .hold _ ((restricts.isLocked its_own).trans free)⟩
  | acquire handle use free other =>
    cases left
    exact ⟨_, locked, .acquire _ use ((restricts.isLocked its_own).trans free) other⟩

theorem Restricts.reflects_using (restricts : Restricts path mine store alone) {handle : Handle} {use : Use κ}
    (here : (handle.request.path == path) = true) (its_own : mine handle.number = true)
    (rule : Rule background store (.using handle use) choice turn) (left : storeOf? turn = some next) :
    ∃ after, Restricts path mine next after ∧
      Rule own alone ((Activity.using handle use).renumber (rank mine)) choice (turn.over (rank mine) after) := by
  have freed := restricts.unlock here its_own
  cases rule with
  | askUse => cases left
  | held handle =>
    cases left
    exact ⟨alone, restricts, .held _⟩
  | refreshDone handle request owner artifact =>
    cases left
    exact ⟨_, restricts.replace here its_own artifact, .refreshDone _ request owner artifact⟩
  | refreshFailed handle request owner error =>
    cases left
    exact ⟨_, freed, .refreshFailed _ request owner error⟩
  | refreshPanicked handle request owner =>
    refine freed.reflected .of_afterPanic left ?_
    rw [over_afterPanic]
    exact .refreshPanicked _ request owner
  | reparseDone handle flags artifact =>
    cases left
    exact ⟨_, restricts.replace here its_own artifact, .reparseDone _ flags artifact⟩
  | reparseFailed handle flags error =>
    cases left
    exact ⟨_, freed, .reparseFailed _ flags error⟩
  | reparsePanicked handle flags =>
    cases left
    exact ⟨_, freed, .reparsePanicked _ flags⟩
  | queryDone handle line column candidates noted =>
    cases left
    exact ⟨_, freed, .queryDone _ line column candidates noted⟩
  | queryFailed handle line column error noted =>
    cases left
    exact ⟨_, freed, .queryFailed _ line column error noted⟩
  | queryPanicked handle line column noted =>
    cases left
    exact ⟨_, freed, .queryPanicked _ line column noted⟩
  | completeDone handle line column flags candidates noted =>
    cases left
    exact ⟨_, freed, .completeDone _ line column flags candidates noted⟩
  | completeFailed handle line column flags error noted =>
    cases left
    exact ⟨_, freed, .completeFailed _ line column flags error noted⟩
  | completePanicked handle line column flags noted =>
    cases left
    exact ⟨_, freed, .completePanicked _ line column flags noted⟩

theorem Restricts.reflects_settling (restricts : Restricts path mine store alone) {owner : Owner κ}
    {built : Option Handle} {place : Path} (owned : owner.path? = some place) (here : (place == path) = true)
    (rule : Rule background store (.settle owner built) choice turn) (left : storeOf? turn = some next) :
    ∃ after, Restricts path mine next after ∧
      Rule own alone ((Activity.settle owner built).renumber (rank mine)) choice (turn.over (rank mine) after) := by
  cases rule with
  | settleAlone owner built unowned =>
    rw [unowned] at owned
    cases owned
  | settle owner built other known kept =>
    cases known.symm.trans owned
    refine (restricts.settled here).reflected .of_finish left ?_
    rw [over_finish]
    exact .settle owner _ place owned ((restricts.settle here).trans kept)
  | takeOver owner built other request known given =>
    cases known.symm.trans owned
    refine (restricts.settled here).reflected .of_takeOver left ?_
    rw [over_takeOver]
    exact .takeOver owner _ place request owned ((restricts.settle here).trans given)

theorem Restricts.reflects_owned (restricts : Restricts path mine store alone)
    (units : ∀ place handle, (place == path) = true → store.peek place = some handle → mine handle.number = true)
    (owned : (subjects? activity).isSome = true) (all : AllOf path (names activity))
    (used : ∀ handle use, activity ≠ .acquire handle use ∧ activity ≠ .using handle use)
    (unsettled : ∀ owner built, activity ≠ .settle owner built)
    (unit : ∀ handle ∈ activity.handles, (handle.request.path == path) = true → mine handle.number = true)
    (fresh : ∀ request artifact owner, activity = .keep request artifact owner → mine store.cells.length = true)
    (rule : Rule background store activity choice turn) (left : storeOf? turn = some next) :
    ∃ after, Restricts path mine next after ∧
      Rule own alone (activity.renumber (rank mine)) choice (turn.over (rank mine) after) := by
  have first {place : Path} {rest : List Path} (same : names activity = place :: rest) : (place == path) = true :=
    all place (by rw [same]; exact List.mem_cons_self)
  cases rule with
  | served request owner handle found serves =>
    refine restricts.reflected .of_afterBuild left ?_
    rw [over_afterBuild]
    exact .served request owner _ (restricts.found (first rfl) found) serves
  | replaced request owner handle found unfit =>
    cases left
    exact ⟨_, restricts.evict (first rfl),
      .replaced request owner (handle.renumber (rank mine)) (restricts.found (first rfl) found) unfit⟩
  | absent request owner absent =>
    cases left
    exact ⟨alone, restricts, .absent request owner (restricts.missing (first rfl) absent)⟩
  | dropReplaced request owner =>
    cases left
    exact ⟨_, restricts.count_on _, .dropReplaced request owner⟩
  | build request owner =>
    cases left
    exact ⟨_, restricts.count_on _, .build request owner⟩
  | parsed request owner artifact =>
    cases left
    exact ⟨alone, restricts, .parsed request owner artifact⟩
  | parseFailed request owner error =>
    cases left
    exact ⟨alone, restricts, .parseFailed request owner error⟩
  | parsePanicked request owner =>
    refine restricts.reflected .of_afterPanic left ?_
    rw [over_afterPanic]
    exact .parsePanicked request owner
  | keep request artifact owner =>
    refine (restricts.keep artifact (first rfl) (fresh _ _ _ rfl)).reflected .of_afterBuild left ?_
    have made : (store.keep request artifact).1.renumber (rank mine) = (alone.keep request artifact).1 := by
      simp [Store.keep, Handle.renumber, restricts.count]
    rw [over_afterBuild, Option.map_some, made]
    exact .keep request artifact owner
  | noteFailure request error owner =>
    refine (restricts.count_on _).reflected .of_afterBuild left ?_
    rw [over_afterBuild]
    exact .noteFailure request error owner
  | find request owner handle found serves =>
    cases left
    exact ⟨alone, restricts, .find request owner _ (restricts.found (first rfl) found) serves⟩
  | findNothing request owner missing =>
    refine restricts.reflected .of_afterRefresh left ?_
    rw [over_afterRefresh]
    refine .findNothing request owner fun handle there => ?_
    rw [restricts.peek (first rfl)] at there
    obtain ⟨other, found, rfl⟩ := Option.map_eq_some_iff.mp there
    exact missing other found
  | noteReparse handle request owner =>
    refine (restricts.count_on _).reflected .of_afterRefresh left ?_
    rw [over_afterRefresh]
    exact .noteReparse _ request owner
  | noteReparseFailed handle request error owner =>
    cases left
    exact ⟨_, restricts.count_on _, .noteReparseFailed _ request error owner⟩
  | noteReparseFailure handle request error owner =>
    cases left
    exact ⟨_, restricts.count_on _, .noteReparseFailure _ request error owner⟩
  | evict handle owner =>
    refine (restricts.evictIfCurrent (first rfl) (unit handle List.mem_cons_self (first rfl))
      fun current found => units _ current (first rfl) found).reflected .of_afterRefresh left ?_
    rw [over_afterRefresh]
    exact .evict _ owner
  | settleAlone | settle | takeOver => exact absurd rfl (unsettled _ _)
  | hold | acquire => exact absurd rfl (used _ _).1
  | held | refreshDone | refreshFailed | refreshPanicked | reparseDone | reparseFailed | reparsePanicked | queryDone
  | queryFailed | queryPanicked | completeDone | completeFailed | completePanicked => exact absurd rfl (used _ _).2
  | askParse | awaitUnit | askUse => cases left
  | _ => cases owned

/-- What is done for the path is done in the same way where there is no other path, unless the queue refuses it. -/
theorem Restricts.reflects (restricts : Restricts path mine store alone)
    (units : ∀ place handle, (place == path) = true → store.peek place = some handle → mine handle.number = true)
    (all : AllOf path (names activity)) (named : names activity = [] → ∃ callback, activity = .calling callback)
    (used : ∀ handle ∈ activity.handles, mine handle.number = (path == handle.request.path))
    (fresh : ∀ request artifact owner, activity = .keep request artifact owner → mine store.cells.length = true)
    (room : ∀ job giving, activity = .enqueue job giving →
      (store.enqueue background job).1 = .accepted ∧ (alone.enqueue own job).1 = .accepted)
    (rule : Rule background store activity choice turn) (left : storeOf? turn = some next) :
    ∃ after, Restricts path mine next after ∧
      Rule own alone (activity.renumber (rank mine)) choice (turn.over (rank mine) after) := by
  have first {place : Path} {rest : List Path} (same : names activity = place :: rest) : (place == path) = true :=
    all place (by rw [same]; exact List.mem_cons_self)
  have unit (handle : Handle) (inside : handle ∈ activity.handles) (here : (handle.request.path == path) = true) :
      mine handle.number = true := (used handle inside).trans (BEq.symm here)
  by_cases acquires : ∃ handle use, activity = .acquire handle use
  · obtain ⟨handle, use, rfl⟩ := acquires
    exact restricts.reflects_acquiring (first rfl) (unit handle List.mem_cons_self (first rfl)) rule left
  by_cases uses : ∃ handle use, activity = .using handle use
  · obtain ⟨handle, use, rfl⟩ := uses
    exact restricts.reflects_using (first rfl) (unit handle List.mem_cons_self (first rfl)) rule left
  by_cases settles : ∃ owner built, activity = .settle owner built
  · obtain ⟨owner, built, rfl⟩ := settles
    cases owned : owner.path? with
    | some place => exact restricts.reflects_settling owned (all place (by simp [names, owned])) rule left
    | none =>
      obtain ⟨_, same⟩ := named (by simp [names, owned])
      cases same
  cases gives : activity.giving? with
  | some giving => exact restricts.reflects_giving gives all room rule left
  | none =>
  cases owned : (subjects? activity).isSome with
  | true =>
    exact restricts.reflects_owned units owned all
      (fun handle use => ⟨fun same => acquires ⟨handle, use, same⟩, fun same => uses ⟨handle, use, same⟩⟩)
      (fun owner built same => settles ⟨owner, built, same⟩) unit fresh rule left
  | false =>
  cases rule with
  | hit request handle found serves =>
    cases left
    exact ⟨alone, restricts, .hit request _ (restricts.found (first rfl) found) serves⟩
  | stale request handle found unfit =>
    cases left
    exact ⟨_, restricts.evict (first rfl), .stale request _ (restricts.found (first rfl) found) unfit⟩
  | busy request absent marked =>
    cases left
    exact ⟨_, restricts.record (first rfl),
      .busy request (restricts.missing (first rfl) absent) ((restricts.isParsing (first rfl)).trans marked)⟩
  | first request absent free =>
    cases left
    exact ⟨_, restricts.mark (first rfl),
      .first request (restricts.missing (first rfl) absent) ((restricts.isParsing (first rfl)).trans free)⟩
  | dropStale request handle =>
    cases left
    exact ⟨_, restricts.count_on _, .dropStale request _⟩
  | collect | refreshed | refreshNext | reorder =>
    obtain ⟨_, same⟩ := named rfl
    cases same
  | unwind place =>
    cases left
    exact ⟨_, restricts.release (first rfl), .unwind place⟩
  | returned callback panicked =>
    cases left
    refine ⟨alone, restricts, ?_⟩
    cases panicked
    · exact .returned callback false
    · exact .returned callback true
  | call => cases left
  | askUnsaved query unsaved =>
    cases left
    exact ⟨alone, restricts, .askUnsaved query unsaved⟩
  | askNothing query saved absent =>
    cases left
    exact ⟨alone, restricts, .askNothing query saved (restricts.missing (first rfl) absent)⟩
  | ask query handle saved found =>
    cases left
    exact ⟨alone, restricts, .ask query _ saved (restricts.found (first rfl) found)⟩
  | present | record | parse | spare | reparse | accepted | full | closed | awaitRoom | withdraw => cases gives
  | awaitUnit | hold | acquire => exact absurd ⟨_, _, rfl⟩ acquires
  | askUse | held | refreshDone | refreshFailed | refreshPanicked | reparseDone | reparseFailed | reparsePanicked
  | queryDone | queryFailed | queryPanicked | completeDone | completeFailed | completePanicked =>
    exact absurd ⟨_, _, rfl⟩ uses
  | _ => cases owned

end Rules

end UnitCache.Interleaving
