import UnitCache.Engine
import UnitCache.Proofs.Handles
/-!
Where units come from. A unit is made once, of what the engine built for one request, and what it holds from then on is
what the engine made of it when it was built anew. So a handle tells for ever what its unit was built for.
-/
namespace UnitCache

def Store.artifacts {α κ : Type} (store : Store α κ) : List α := store.cells.map Cell.artifact

namespace Interleaving

variable {α κ : Type}

/-- A unit as it was put into the cache: by which frame, what it was built for, and what the engine had made. -/
structure Build (α : Type) where
  frame : Nat
  request : Request
  artifact : α

def Act.build? (act : Act α κ) : Option (Build α) :=
  match act.frame.activity with
  | .keep request artifact _ => some ⟨act.frame.number, request, artifact⟩
  | _ => none

def Act.renewal? (act : Act α κ) : Option (Nat × α) :=
  match act.frame.activity, act.choice with
  | .using handle _, .reparsed (.ok artifact) => some (handle.number, artifact)
  | _, _ => none

/-- Where a unit is, it is given what an act puts in its place. -/
def Act.renews? (number : Nat) (act : Act α κ) : Option α :=
  match act.renewal? with
  | some (other, artifact) => if other = number ∧ number < act.store.cells.length then some artifact else none
  | none => none

def builds (history : List (Moment α κ)) : List (Build α) := (allActs history).filterMap Act.build?

def renewals (number : Nat) (history : List (Moment α κ)) : List α := (allActs history).filterMap (Act.renews? number)

def storeOf? : Turn α κ → Option (Store α κ)
  | .next store _ _ | .done store _ _ => some store
  | _ => none

def remade (activity : Activity α κ) (choice : Choice α κ) (artifacts : List α) : List α :=
  match activity, choice with
  | .keep _ artifact _, _ => artifacts ++ [artifact]
  | .using handle _, .reparsed (.ok artifact) => artifacts.set handle.number artifact
  | _, _ => artifacts

section Stores

variable (store : Store α κ)

theorem artifacts_modifyCell {number : Nat} {change : Cell α → Cell α}
    (same : ∀ cell, (change cell).artifact = cell.artifact) :
    (store.modifyCell number change).artifacts = store.artifacts := by
  refine List.ext_getElem? fun place => ?_
  simp only [Store.artifacts, Store.modifyCell, List.getElem?_map, List.getElem?_modify]
  cases store.cells[place]? with
  | none => rfl
  | some cell => by_cases here : number = place <;> simp [here, same]

@[simp]
theorem artifacts_lock (number : Nat) : (store.lock number).artifacts = store.artifacts :=
  artifacts_modifyCell store fun _ => rfl

@[simp]
theorem artifacts_unlock (number : Nat) : (store.unlock number).artifacts = store.artifacts :=
  artifacts_modifyCell store fun _ => rfl

@[simp]
theorem artifacts_replaceArtifact (number : Nat) (artifact : α) :
    (store.replaceArtifact number artifact).artifacts = store.artifacts.set number artifact := by
  refine List.ext_getElem? fun place => ?_
  simp only [Store.artifacts, Store.replaceArtifact, Store.modifyCell, List.getElem?_map, List.getElem?_modify,
    List.getElem?_set, List.length_map]
  by_cases here : number = place
  · subst here
    cases found : store.cells[number]? with
    | none => simp [List.getElem?_eq_none_iff.mp found]
    | some cell => simp [(List.getElem?_eq_some_iff.mp found).1]
  · simp [here]

@[simp]
theorem artifacts_keep (request : Request) (artifact : α) :
    (store.keep request artifact).2.artifacts = store.artifacts ++ [artifact] := by
  simp [Store.keep, Store.artifacts]

@[simp]
theorem artifacts_mark (path : Path) : (store.mark path).artifacts = store.artifacts := by
  obtain ⟨_, same⟩ := mark_eq store path
  rw [same]
  rfl

@[simp]
theorem artifacts_settle (path : Path) : (store.settle path).2.artifacts = store.artifacts := by
  obtain ⟨_, _, same⟩ := settle_eq store path
  rw [same]
  rfl

@[simp]
theorem artifacts_evictIfCurrent (handle : Handle) : (store.evictIfCurrent handle).artifacts = store.artifacts := by
  rcases evictIfCurrent_cases store handle with ⟨_, _, _, same⟩ | ⟨_, same⟩ <;> rw [same]
  rfl

end Stores

section Turns

variable {background : Bool} {store next : Store α κ} {activity : Activity α κ} {choice : Choice α κ} {turn : Turn α κ}

theorem PassesOn.storeOf? (passes : PassesOn store turn) : storeOf? turn = some store := by cases passes <;> rfl

theorem storeOf?_after {frame : Frame α κ} {left : Option (Frame α κ)} (made : frame.after? turn = some (next, left)) :
    storeOf? turn = some next := by
  cases turn <;> cases made <;> rfl

theorem artifacts_of_rule (rule : Rule background store activity choice turn) (left : storeOf? turn = some next) :
    next.artifacts = remade activity choice store.artifacts := by
  cases rule with
  | keep =>
    cases PassesOn.of_afterBuild.storeOf?.symm.trans left
    exact artifacts_keep ..
  | served | noteFailure =>
    cases PassesOn.of_afterBuild.storeOf?.symm.trans left
    rfl
  | present _ giving | record _ giving | spare _ giving | accepted _ giving | withdraw _ giving =>
    cases (PassesOn.of_give giving _).storeOf?.symm.trans left
    rfl
  | evict =>
    cases PassesOn.of_afterRefresh.storeOf?.symm.trans left
    exact artifacts_evictIfCurrent ..
  | findNothing | noteReparse =>
    cases PassesOn.of_afterRefresh.storeOf?.symm.trans left
    rfl
  | settleAlone | settle =>
    cases PassesOn.of_finish.storeOf?.symm.trans left
    simp [remade]
  | takeOver =>
    cases PassesOn.of_takeOver.storeOf?.symm.trans left
    simp [remade]
  | parsePanicked | refreshPanicked =>
    cases PassesOn.of_afterPanic.storeOf?.symm.trans left
    simp [remade]
  | first | parse | reparse | hold | acquire | refreshDone | refreshFailed | reparseDone | reparseFailed | reparsePanicked
  | queryDone | queryFailed | queryPanicked | completeDone | completeFailed | completePanicked =>
    cases left
    simp [remade]
  | _ => cases left <;> rfl

end Turns

/-- What a run has made of its units, and the handles under which they are found. -/
structure Grounded (history : List (Moment α κ)) (store : Store α κ) : Prop where
  holds : ∀ number : Nat, store.artifacts[number]? =
    (builds history)[number]?.map fun build => (renewals number history).getLast?.getD build.artifact
  made : ∀ number, store.cells.length ≤ number → renewals number history = []
  entries : ∀ path handle, store.peek path = some handle →
    (builds history)[handle.number]?.map Build.request = some handle.request

section Acts

variable {history : List (Moment α κ)} {system next : System α κ} {move : Move α κ} {store : Store α κ}

theorem allActs_append (moment : Moment α κ) :
    allActs (history ++ [moment]) = allActs history ++ moment.act?.toList := by
  rw [allActs, List.filterMap_append, allActs]
  cases told : moment.act? <;> simp [told]

theorem builds_append (history : List (Moment α κ)) (moment : Moment α κ) :
    builds (history ++ [moment]) = builds history ++ (moment.act?.bind Act.build?).toList := by
  rw [builds, allActs_append, List.filterMap_append, builds]
  cases moment.act? with
  | none => rfl
  | some act => cases told : act.build? <;> simp [told]

theorem builds_cases {moment : Moment α κ} {number : Nat} {build : Build α}
    (known : (builds (history ++ [moment]))[number]? = some build) :
    (builds history)[number]? = some build ∨
      number = (builds history).length ∧ moment.act?.bind Act.build? = some build := by
  rw [builds_append, List.getElem?_append] at known
  split at known
  next => exact .inl known
  next past =>
    cases made : moment.act?.bind Act.build? with
    | none => simp [made] at known
    | some last =>
      rw [made, Option.toList_some, List.getElem?_singleton] at known
      split at known
      next here => exact .inr ⟨by omega, known⟩
      next => cases known

theorem renewals_append (number : Nat) (history : List (Moment α κ)) (moment : Moment α κ) :
    renewals number (history ++ [moment]) =
    renewals number history ++ (moment.act?.bind (Act.renews? number)).toList := by
  rw [renewals, allActs_append, List.filterMap_append, renewals]
  cases moment.act? with
  | none => rfl
  | some act => cases told : act.renews? number <;> simp [told]

theorem still_of_idle (made : system.move? move = some next) (idle : Moment.act? ⟨system, move⟩ = none) :
    next.store.flags = system.store.flags ∧ next.store.artifacts = system.store.artifacts := by
  rcases move?_cases made with ⟨index, choice, thread, later, rfl, found, acted, threads, _⟩ |
    ⟨rfl, store, threads, _⟩ | ⟨job, rfl, taken, threads, _⟩ | ⟨rfl, store, threads, _⟩
  · rcases act?_cases acted with ⟨operation, rfl, store, rfl⟩ | ⟨handle, rfl, store, stack⟩ | ⟨job, rfl, taken, rfl⟩ |
      ⟨rfl, store, rfl⟩ | goes
    · rw [store]
      exact ⟨rfl, rfl⟩
    · rw [store]
      exact ⟨rfl, artifacts_unlock ..⟩
    · rw [(dequeue_eq taken).2]
      exact ⟨rfl, rfl⟩
    · rw [store]
      exact ⟨rfl, rfl⟩
    · obtain ⟨frame, rest, turn, left, stack, chosen, went, kept⟩ := goes
      simp [Moment.act?, found, stack, Act.turn?, chosen] at idle
  · rw [store]
    exact ⟨rfl, rfl⟩
  · rw [(dequeue_eq taken).2]
    exact ⟨rfl, rfl⟩
  · rw [store]
    exact ⟨rfl, rfl⟩

theorem length_artifacts (store : Store α κ) : store.artifacts.length = store.cells.length := List.length_map ..

theorem Grounded.length (grounded : Grounded history store) : (builds history).length = store.cells.length := by
  rw [← length_artifacts]
  refine Nat.le_antisymm ?_ ?_
  · have past : ((builds history)[store.artifacts.length]?).map _ = none :=
      (grounded.holds store.artifacts.length).symm.trans (List.getElem?_eq_none_iff.mpr (Nat.le_refl _))
    exact List.getElem?_eq_none_iff.mp (Option.map_eq_none_iff.mp past)
  · have past : store.artifacts[(builds history).length]? = none := by
      simp only [grounded.holds, List.getElem?_eq_none_iff.mpr (Nat.le_refl _), Option.map_none]
    exact List.getElem?_eq_none_iff.mp past

inductive Act.Makes (act : Act α κ) : Prop where
  | unit (request : Request) (artifact : α) (owner : Owner κ) (keeps : act.frame.activity = .keep request artifact owner)
      (build : act.build? = some ⟨act.frame.number, request, artifact⟩) (rest : ∀ number, act.renews? number = none)
  | anew (handle : Handle) (use : Use κ) (artifact : α) (uses : act.frame.activity = .using handle use)
      (answered : act.choice = .reparsed (.ok artifact)) (build : act.build? = none)
      (renewal : act.renewal? = some (handle.number, artifact))
  | nothing (build : act.build? = none) (rest : ∀ number, act.renews? number = none)
      (stays : ∀ artifacts, remade act.frame.activity act.choice artifacts = artifacts)

theorem Act.makes (act : Act α κ) : act.Makes := by
  obtain ⟨background, before, ⟨number, task, activity⟩, choice⟩ := act
  cases activity with
  | keep request artifact owner =>
    exact .unit request artifact owner rfl rfl fun _ => rfl
  | «using» handle use =>
    cases choice with
    | reparsed answer =>
      cases answer with
      | ok artifact => exact .anew handle use artifact rfl rfl rfl rfl
      | _ => exact .nothing rfl (fun _ => rfl) fun _ => rfl
    | _ => exact .nothing rfl (fun _ => rfl) fun _ => rfl
  | _ => exact .nothing rfl (fun _ => rfl) fun _ => rfl

theorem renews?_of_unmade {act : Act α κ} {number : Nat} (unmade : act.store.cells.length ≤ number) :
    act.renews? number = none := by
  unfold Act.renews?
  split
  next => exact if_neg fun both => Nat.not_lt_of_le unmade both.2
  next => rfl

theorem Grounded.entries_of_change {after : Store α κ} {act : Act α κ} (grounded : Grounded history store)
    (change : Change store after act.frame.activity) {path : Path} {handle : Handle}
    (found : after.peek path = some handle) :
    (builds history ++ act.build?.toList)[handle.number]?.map Build.request = some handle.request := by
  rcases change.origin found with before | ⟨_, request, artifact, owner, keeps, rfl⟩
  · have known := grounded.entries path handle before
    obtain ⟨build, there, -⟩ := Option.map_eq_some_iff.mp known
    rw [List.getElem?_append_left (List.getElem?_eq_some_iff.mp there).1, known]
  · have build : act.build? = some ⟨act.frame.number, request, artifact⟩ := by rw [Act.build?, keeps]
    rw [build, ← grounded.length]
    simp

theorem Grounded.holds_of_unit (grounded : Grounded history store) (build : Build α) (number : Nat) :
    (store.artifacts ++ [build.artifact])[number]? = (builds history ++ [build])[number]?.map fun build =>
      (renewals number history).getLast?.getD build.artifact := by
  have length := grounded.length
  have long : store.artifacts.length = (builds history).length := (length_artifacts _).trans length.symm
  rcases Nat.lt_trichotomy number (builds history).length with less | rfl | more
  · rw [List.getElem?_append_left less, List.getElem?_append_left (long ▸ less)]
    exact grounded.holds number
  · rw [grounded.made _ (Nat.le_of_eq length.symm), List.getElem?_concat_length, ← long, List.getElem?_concat_length]
    rfl
  · rw [List.getElem?_eq_none (by simp; omega), List.getElem?_eq_none (by simp; omega)]
    rfl

theorem Grounded.holds_of_anew {act : Act α κ} {renewed : Nat} {artifact : α} (grounded : Grounded history act.store)
    (renewal : act.renewal? = some (renewed, artifact)) (number : Nat) :
    (act.store.artifacts.set renewed artifact)[number]? = (builds history)[number]?.map fun build =>
      (renewals number history ++ (act.renews? number).toList).getLast?.getD build.artifact := by
  have length := grounded.length
  rw [List.getElem?_set]
  by_cases same : renewed = number
  · subst same
    by_cases there : renewed < act.store.cells.length
    · have renews : act.renews? renewed = some artifact := by simp [Act.renews?, renewal, there]
      obtain ⟨built, known⟩ : ∃ built, (builds history)[renewed]? = some built :=
        ⟨_, List.getElem?_eq_getElem (length ▸ there)⟩
      simp [renews, known, length_artifacts, there]
    · have absent : (builds history)[renewed]? = none := List.getElem?_eq_none (by omega)
      simp [absent, length_artifacts, there]
  · have rest : act.renews? number = none := by simp [Act.renews?, renewal, same]
    rw [if_neg same, rest, Option.toList_none, List.append_nil]
    exact grounded.holds number

/-- No act makes anything but what is noted of it. -/
theorem Grounded.step {act : Act α κ} {turn : Turn α κ} {left : Option (Frame α κ)}
    (grounded : Grounded history system.store) (told : Moment.act? ⟨system, move⟩ = some act)
    (turned : act.turn? = some turn) (made : act.frame.after? turn = some (next.store, left)) :
    Grounded (history ++ [⟨system, move⟩]) next.store := by
  have here := act_store told
  have change := change_of_turn turned made
  have artifacts := artifacts_of_rule (rule_of_turn turned) (storeOf?_after made)
  have longer := builds_append history ⟨system, move⟩
  have renewed (number : Nat) := renewals_append number history ⟨system, move⟩
  simp only [told, Option.bind_some] at longer renewed
  rw [← here] at grounded
  refine ⟨fun number => ?_, fun number past => ?_, fun path handle found =>
    longer ▸ grounded.entries_of_change change found⟩
  · cases act.makes with
    | nothing build rest stays =>
      rw [artifacts, stays, longer, renewed, build, rest]
      simpa using grounded.holds number
    | unit request artifact owner keeps build rest =>
      rw [artifacts, keeps, remade, longer, renewed, build, rest, Option.toList_none, List.append_nil, Option.toList_some]
      exact grounded.holds_of_unit ⟨act.frame.number, request, artifact⟩ number
    | anew handle use artifact uses answered build renewal =>
      rw [artifacts, uses, answered, remade, longer, renewed, build, Option.toList_none, List.append_nil]
      exact grounded.holds_of_anew renewal number
  · have unmade := Nat.le_trans change.length past
    rw [renewed, grounded.made number unmade, renews?_of_unmade unmade]
    rfl

end Acts

section Runs

variable {flags : ParseFlags} {capacity : Nat} {roles : List Role} {history : List (Moment α κ)} {system : System α κ}

theorem Change.flags_eq {store next : Store α κ} {activity : Activity α κ} (change : Change store next activity) :
    next.flags = store.flags := by
  cases change <;> rfl

theorem builds_grow {moment : Moment α κ} {number : Nat} {request : Request}
    (known : (builds history)[number]?.map Build.request = some request) :
    (builds (history ++ [moment]))[number]?.map Build.request = some request := by
  obtain ⟨build, there, same⟩ := Option.map_eq_some_iff.mp known
  rw [builds_append, List.getElem?_append_left (List.getElem?_eq_some_iff.mp there).1, known]

theorem Run.flags_eq (run : Run flags capacity roles history system) : system.store.flags = flags := by
  induction run with
  | start => rfl
  | @move history system next move run made ih =>
    rw [← ih]
    cases progress_of_move made with
    | acts act turn left others told old here turned went => exact here ▸ (change_of_turn turned went).flags_eq
    | begins _ _ idle | rests idle => exact (still_of_idle made idle).1

theorem Run.grounded (run : Run flags capacity roles history system) : Grounded history system.store := by
  induction run with
  | start =>
    refine ⟨fun number => rfl, fun _ _ => rfl, ?_⟩
    intro _ _ found
    cases found
  | @move history system next move run made ih =>
    cases progress_of_move made with
    | acts act turn left others told old here turned went => exact ih.step told turned went
    | begins _ _ idle _ _ _ same | rests idle _ _ same =>
      have artifacts := (still_of_idle made idle).2
      have builds_stay := builds_append history ⟨system, move⟩
      have renewals_stay (number : Nat) := renewals_append number history ⟨system, move⟩
      simp only [idle, Option.bind_none, Option.toList_none, List.append_nil] at builds_stay renewals_stay
      refine ⟨fun number => ?_, fun number past => ?_, fun path handle found => ?_⟩
      · rw [artifacts, builds_stay, renewals_stay]
        exact ih.holds number
      · rw [renewals_stay]
        exact ih.made number (same.made ▸ past)
      · rw [builds_stay]
        refine ih.entries path handle ?_
        rwa [Store.peek, same.units, ← Store.peek] at found

theorem Run.at_act (run : Run flags capacity roles history system) {act : Act α κ} (inside : act ∈ allActs history) :
    ∃ earlier before move later, history = earlier ++ ⟨before, move⟩ :: later ∧ Run flags capacity roles earlier before ∧
      Moment.act? ⟨before, move⟩ = some act := by
  induction run with
  | start => cases inside
  | @move history system next move run made ih =>
    rw [allActs_append, List.mem_append, Option.mem_toList] at inside
    rcases inside with inside | told
    · obtain ⟨earlier, before, other, later, rfl, reached, told⟩ := ih inside
      exact ⟨earlier, before, other, later ++ [⟨system, move⟩], by simp, reached, told⟩
    · exact ⟨history, system, move, [], rfl, run, told⟩

end Runs

def Act.Parses (act : Act α κ) (request : Request) (artifact : α) : Prop :=
  (∃ owner, act.frame.activity = .parsing request owner) ∧ act.choice = .parsed (.ok artifact)

def Act.call? (act : Act α κ) : Option EngineCall :=
  match act.frame.activity.step act.background act.store with
  | .engine call => some call
  | _ => none

theorem Act.Parses.call? {act : Act α κ} {request : Request} {artifact : α} (parses : act.Parses request artifact) :
    act.call? = some (.parse request act.store.flags) := by
  obtain ⟨⟨owner, activity⟩, _⟩ := parses
  rw [Act.call?, activity]
  rfl

/-- Each unit that a frame puts into the cache is what the engine has just built for it. -/
def Traced (row : List (Act α κ)) : Prop :=
  ∀ earlier keep later build, row = earlier ++ keep :: later → keep.build? = some build →
    ∃ before parse, earlier = before ++ [parse] ∧ parse.Parses build.request build.artifact

/-- A frame that is about to put a unit into the cache has just got it from the engine. -/
structure Traces (row : List (Act α κ)) (activity : Activity α κ) : Prop where
  traced : Traced row
  ready : ∀ request artifact owner, activity = .keep request artifact owner →
    ∃ before parse, row = before ++ [parse] ∧ parse.Parses request artifact

theorem Traced.concat {row : List (Act α κ)} {act : Act α κ} (traced : Traced row)
    (ready : ∀ build, act.build? = some build →
      ∃ before parse, row = before ++ [parse] ∧ parse.Parses build.request build.artifact) : Traced (row ++ [act]) := by
  intro earlier keep later build whole makes
  rcases List.eq_nil_or_concat' later with rfl | ⟨later, last, rfl⟩
  · obtain ⟨rfl, rfl⟩ := List.append_inj' whole rfl |>.imp_right List.singleton_inj.mp
    exact ready build makes
  · rw [← List.cons_append, ← List.append_assoc] at whole
    obtain ⟨rfl, -⟩ := List.append_inj' whole rfl
    exact traced earlier keep later build rfl makes

theorem Act.keeps_of_build? {act : Act α κ} {build : Build α} (makes : act.build? = some build) :
    ∃ owner, act.frame.activity = .keep build.request build.artifact owner := by
  unfold Act.build? at makes
  split at makes
  next request artifact owner keeps =>
    cases makes
    exact ⟨owner, keeps⟩
  next => cases makes

theorem parsed_of_keep {background : Bool} {store next : Store α κ} {activity : Activity α κ} {choice : Choice α κ}
    {request : Request} {artifact : α} {owner : Owner κ} {warnings : List Warning}
    (chosen : turn? background store activity choice = some (.next next (.keep request artifact owner) warnings)) :
    activity = .parsing request owner ∧ choice = .parsed (.ok artifact) := by
  cases follows_of_turn chosen with
  | keeps =>
    cases choice with
    | parsed answer =>
      cases answer with
      | ok =>
        cases chosen
        exact ⟨rfl, rfl⟩
      | error => cases chosen
      | panic => cases owner <;> cases chosen
    | _ => cases chosen

theorem Traces.concat {row : List (Act α κ)} {act : Act α κ} {turn : Turn α κ} (traces : Traces row act.frame.activity)
    (turned : act.turn? = some turn) :
    Leads turn (Traces (row ++ [act])) (fun _ => Traced (row ++ [act])) := by
  have traced : Traced (row ++ [act]) := traces.traced.concat fun build makes => by
    obtain ⟨owner, keeps⟩ := Act.keeps_of_build? makes
    exact traces.ready _ _ owner keeps
  cases turn with
  | next store activity warnings =>
    refine ⟨traced, ?_⟩
    rintro request artifact owner rfl
    obtain ⟨activity, answered⟩ := parsed_of_keep turned
    exact ⟨row, act, rfl, ⟨owner, activity⟩, answered⟩
  | done => exact traced
  | _ => trivial

section Runs

variable {flags : ParseFlags} {capacity : Nat} {roles : List Role} {history : List (Moment α κ)} {system : System α κ}

theorem Run.traced (run : Run flags capacity roles history system) (number : Nat) : Traced (acts number history) := by
  rcases List.eq_nil_or_concat' (acts number history) with none_yet | ⟨init, act, row⟩
  · rw [none_yet]
    intro earlier keep later build whole
    simp at whole
  · have own : act ∈ acts number history := by simp [row]
    obtain ⟨inside, same⟩ := List.mem_filter.mp own
    have begun := run.started_of_act inside
    rw [beq_iff_eq.mp same] at begun
    have first {task : Task κ} {activity : Activity α κ} (begins : Begins task activity) : Traces [] activity := by
      refine ⟨fun _ _ _ _ whole => by simp at whole, ?_⟩
      rintro request artifact owner rfl
      generalize same : Activity.keep request artifact owner = activity at begins
      cases begins with
      | operation operation => cases operation <;> cases same
      | job job =>
        unfold Activity.ofJob at same
        split at same <;> cases same
      | tick => cases same
    have fares : Fares (fun row _ activity => Traces row activity) (fun row _ _ => Traced row) history system number _ :=
      run.fares first (fun _ _ turned traces => traces.concat turned) number _ begun
    cases fares with
    | goes_on _ _ _ kept => exact kept.traced
    | finished _ _ _ ended => exact ended

/-- Ahead of putting a unit into the cache its frame got it from the engine. -/
theorem Run.parse_of_build (run : Run flags capacity roles history system) {keep : Act α κ} {build : Build α}
    (inside : keep ∈ allActs history) (puts : keep.build? = some build) :
    ∃ earlier parse later, acts build.frame history = earlier ++ parse :: keep :: later ∧
      parse ∈ allActs history ∧ parse.Parses build.request build.artifact := by
  obtain ⟨owner, keeps⟩ := Act.keeps_of_build? puts
  have frame : keep.frame.number = build.frame := by
    rw [Act.build?, keeps] at puts
    exact congrArg Build.frame (Option.some.inj puts)
  have own : keep ∈ acts build.frame history := List.mem_filter.mpr ⟨inside, beq_iff_eq.mpr frame⟩
  obtain ⟨first, later, row⟩ := List.append_of_mem own
  obtain ⟨earlier, parse, rfl, parses⟩ := run.traced build.frame first keep later build row puts
  have whole : acts build.frame history = earlier ++ parse :: keep :: later := row.trans (List.append_assoc ..)
  have its_own : parse ∈ acts build.frame history := by simp [whole]
  exact ⟨earlier, parse, later, whole, (List.mem_filter.mp its_own).1, parses⟩

end Runs

end Interleaving
end UnitCache
