import UnitCache.Proofs.Answers
import UnitCache.Proofs.Origins
import UnitCache.Proofs.RefreshMarks
/-!
What a job does that builds a unit anew. Of the refresh itself nothing comes but one call of the engine for the unit
that it has found, and that unit leaves the cache if the call fails. What the job has built after that are requests
that others have put down for its path meanwhile.
-/
namespace UnitCache.Interleaving

variable {α κ : Type}

structure Act.Passes (act : Act α κ) (activity : Activity α κ) : Prop where
  activity : act.frame.activity = activity
  leaves : ∃ next, act.next? = some next ∧ next.units = act.store.units ∧
    next.counters.failures = act.store.counters.failures

structure Act.CountsFailure (act : Act α κ) (activity : Activity α κ) : Prop where
  activity : act.frame.activity = activity
  leaves : ∃ next, act.next? = some next ∧ next.units = act.store.units ∧
    next.counters.failures = act.store.counters.failures + 1

/-- A job finds no unit that is to be built anew: there is none, or one that was built otherwise. -/
structure FindsNothing (job : Job κ) (look : Act α κ) : Prop where
  looks : look.Passes (.find job.request (.job job))
  missing : ∀ handle, look.store.peek job.request.path = some handle → handle.request.serves job.request = false

structure Finds (job : Job κ) (handle : Handle) (look : Act α κ) : Prop where
  looks : look.Passes (.find job.request (.job job))
  found : look.store.peek job.request.path = some handle
  own : (handle.request.path == job.request.path) = true
  fits : handle.request.serves job.request = true

/-- A job has the engine build anew the unit that it has found, and this is the answer. Whether the unit is in the cache
still when its turn comes does not matter. -/
inductive Reparsed (job : Job κ) (handle : Handle) (answer : Answer α) : List (Act α κ) → Prop where
  | mk (look lock call : Act α κ) (finds : Finds job handle look)
      (locks : lock.Passes (.acquire handle (.refresh job.request (.job job))))
      (calls : call.Passes (.using handle (.refresh job.request (.job job))))
      (asked : call.call? = some (.reparse handle call.store.flags)) (answered : call.choice = .reparsed answer) :
      Reparsed job handle answer [look, lock, call]

inductive Counted (job : Job κ) (handle : Handle) : List (Act α κ) → Prop where
  | mk (row : List (Act α κ)) (note count : Act α κ) (error : Error) (reparsed : Reparsed job handle (.error error) row)
      (notes : note.Passes (.noteReparse handle job.request (some error) (.job job)))
      (counts : count.CountsFailure (.noteReparseFailure handle job.request error (.job job))) :
      Counted job handle (row ++ [note, count])

/-- A unit that could not be built anew is taken out of the cache, unless another one is in its place, or none. -/
structure Evicts (job : Job κ) (handle : Handle) (act : Act α κ) : Prop where
  activity : act.frame.activity = .evict handle (.job job)
  ways : (∃ entry, act.store.peek handle.request.path = some entry ∧ entry.number = handle.number ∧
      act.next? = some (act.store.evict handle.request.path)) ∨
    (∀ entry, act.store.peek handle.request.path = some entry → entry.number ≠ handle.number) ∧
      act.next? = some act.store

/-- How far the refresh of a job is, by what it has done, and what it does next. It looks for the unit; if that is not
there as it is to be built, the refresh is over, and else the engine is asked once to build that very unit anew. -/
inductive Refresh (job : Job κ) : List (Act α κ) → Activity α κ → Prop where
  | begun : Refresh job [] (.find job.request (.job job))
  | spared {look : Act α κ} (misses : FindsNothing job look) : Refresh job [look] (.settle (.job job) none)
  | waits {look : Act α κ} {handle : Handle} (finds : Finds job handle look) :
      Refresh job [look] (.acquire handle (.refresh job.request (.job job)))
  | uses {look lock : Act α κ} {handle : Handle} (finds : Finds job handle look)
      (locks : lock.Passes (.acquire handle (.refresh job.request (.job job)))) :
      Refresh job [look, lock] (.using handle (.refresh job.request (.job job)))
  | panicked {row : List (Act α κ)} {handle : Handle} (reparsed : Reparsed job handle .panic row) :
      Refresh job row (.unwind job.request.path)
  | renewed {row : List (Act α κ)} {handle : Handle} {artifact : α}
      (reparsed : Reparsed job handle (.ok artifact) row) :
      Refresh job row (.noteReparse handle job.request none (.job job))
  | done {row : List (Act α κ)} {note : Act α κ} {handle : Handle} {artifact : α}
      (reparsed : Reparsed job handle (.ok artifact) row)
      (notes : note.Passes (.noteReparse handle job.request none (.job job))) :
      Refresh job (row ++ [note]) (.settle (.job job) none)
  | refused {row : List (Act α κ)} {handle : Handle} {error : Error}
      (reparsed : Reparsed job handle (.error error) row) :
      Refresh job row (.noteReparse handle job.request (some error) (.job job))
  | noted {row : List (Act α κ)} {note : Act α κ} {handle : Handle} {error : Error}
      (reparsed : Reparsed job handle (.error error) row)
      (notes : note.Passes (.noteReparse handle job.request (some error) (.job job))) :
      Refresh job (row ++ [note]) (.noteReparseFailure handle job.request error (.job job))
  | counted {row : List (Act α κ)} {handle : Handle} (counted : Counted job handle row) :
      Refresh job row (.evict handle (.job job))
  | failed {row : List (Act α κ)} {evict : Act α κ} {handle : Handle} (counted : Counted job handle row)
      (evicts : Evicts job handle evict) : Refresh job (row ++ [evict]) (.settle (.job job) none)

inductive Over (job : Job κ) : Activity α κ → Prop where
  | settles : Over job (.settle (.job job) none)
  | unwinds : Over job (.unwind job.request.path)

inductive Refreshed (job : Job κ) : List (Act α κ) → Prop where
  | mk {refresh : List (Act α κ)} {behind : Activity α κ} (rest : List (Act α κ)) (first : Refresh job refresh behind)
      (ended : Over job behind) (once : ∀ act ∈ rest, ∀ handle flags, act.call? ≠ some (.reparse handle flags)) :
      Refreshed job (refresh ++ rest)

structure Gives (job : Job κ) (request : Request) (act : Act α κ) : Prop where
  activity : act.frame.activity = .settle (.job job) none
  given : (act.store.settle job.request.path).1 = some request

structure Clears (job : Job κ) (act : Act α κ) : Prop where
  activity : act.frame.activity = .settle (.job job) none
  cleared : (act.store.settle job.request.path).1 = none

inductive Rebuilds (job : Job κ) (request : Request) : Activity α κ → Prop where
  | load : Rebuilds job request (.load request (.job job))
  | replaced : Rebuilds job request (.dropReplaced request (.job job))
  | build : Rebuilds job request (.build request (.job job))
  | parsing : Rebuilds job request (.parsing request (.job job))
  | keep (artifact : α) : Rebuilds job request (.keep request artifact (.job job))
  | failed (error : Error) : Rebuilds job request (.noteFailure request error (.job job))

inductive Refreshing (job : Job κ) (row : List (Act α κ)) : Activity α κ → Prop where
  | refreshes {activity : Activity α κ} (refresh : Refresh job row activity) : Refreshing job row activity
  | settles (refreshed : Refreshed job row) : Refreshing job row (.settle (.job job) none)
  | builds {request : Request} {activity : Activity α κ} (refreshed : Refreshed job row)
      (given : ∃ act ∈ row, Gives job request act) (rebuilds : Rebuilds job request activity) :
      Refreshing job row activity
  | unwinds (path : Path) (refreshed : Refreshed job row) (spoilt : panicked row = true) :
      Refreshing job row (.unwind path)
  | calls (callback : κ) (refreshed : Refreshed job row) (cleared : ∃ act ∈ row, Clears job act) :
      Refreshing job row (.calling callback)

/-- How a job ends that builds a unit anew: it has taken its mark off in settling, unless the engine has panicked. -/
structure Refreshing.Ends (job : Job κ) (row : List (Act α κ)) : Prop where
  refreshed : Refreshed job row
  cleared : panicked row = false → ∃ act ∈ row, Clears job act

section Rows

variable {job : Job κ} {row : List (Act α κ)} {act : Act α κ} {activity : Activity α κ}

theorem next?_of_turned {turn : Turn α κ} {next : Store α κ} (turned : act.turn? = some turn)
    (goes : behind? turn = some next) : act.next? = some next := by
  rw [Act.next?, turned]
  exact goes

theorem Act.Passes.of_turned {turn : Turn α κ} {next : Store α κ} (does : act.frame.activity = activity)
    (turned : act.turn? = some turn) (goes : behind? turn = some next) (units : next.units = act.store.units)
    (failures : next.counters.failures = act.store.counters.failures) : act.Passes activity :=
  ⟨does, next, next?_of_turned turned goes, units, failures⟩

theorem rule_of_act {turn : Turn α κ} (does : act.frame.activity = activity) (turned : act.turn? = some turn) :
    ∃ choice, act.choice = choice ∧ Rule act.background act.store activity choice turn :=
  ⟨act.choice, rfl, does ▸ rule_of_turn turned⟩

theorem using_of_reparse {handle : Handle} {flags : ParseFlags} (asked : act.call? = some (.reparse handle flags)) :
    ∃ use, act.frame.activity = .using handle use := by
  unfold Act.call? at asked
  split at asked
  next call goes =>
    cases asked
    generalize act.frame.activity = activity at goes ⊢
    cases asks_of_step goes <;> exact ⟨_, rfl⟩
  next => cases asked

theorem Refreshed.append (refreshed : Refreshed job row)
    (other : ∀ handle use, act.frame.activity ≠ .using handle use) : Refreshed job (row ++ [act]) := by
  obtain ⟨rest, first, ended, once⟩ := refreshed
  rw [List.append_assoc]
  refine .mk _ first ended fun each inside handle flags asked => ?_
  rcases List.mem_append.mp inside with inside | inside
  · exact once each inside handle flags asked
  · obtain ⟨use, activity⟩ := using_of_reparse asked
    rw [List.mem_singleton.mp inside] at activity
    exact other handle use activity

theorem Refresh.refreshed (refresh : Refresh job row activity) (ended : Over job activity) : Refreshed job row := by
  simpa using Refreshed.mk [] refresh ended (by simp)

theorem turned_of_act {moment : Moment α κ} (told : moment.act? = some act) : ∃ turn, act.turn? = some turn := by
  unfold Moment.act? at told
  split at told
  next =>
    simp only [Option.bind_eq_bind, Option.bind_eq_some_iff, Option.ite_none_right_eq_some, Option.some.injEq] at told
    obtain ⟨_, _, _, _, turned, rfl⟩ := told
    exact Option.isSome_iff_exists.mp turned
  next => cases told

theorem call?_of_inside (inside : outside act.frame.activity = false) : act.call? = none := by
  unfold Act.call?
  split
  next call goes =>
    rw [(asks_of_step goes).outside] at inside
    cases inside
  next => rfl

theorem Act.Passes.silent (passes : act.Passes activity) (inside : outside activity = false) : act.call? = none :=
  call?_of_inside (by rwa [passes.activity])

theorem Reparsed.calls {handle : Handle} {answer : Answer α} (reparsed : Reparsed job handle answer row) :
    ∃ flags, row.filterMap Act.call? = [.reparse handle flags] := by
  obtain ⟨look, lock, call, finds, locks, _, asked, _⟩ := reparsed
  exact ⟨call.store.flags, by simp [finds.looks.silent rfl, locks.silent rfl, asked]⟩

theorem Counted.calls {handle : Handle} (counted : Counted job handle row) :
    ∃ flags, row.filterMap Act.call? = [.reparse handle flags] := by
  obtain ⟨row, note, count, error, reparsed, notes, counts⟩ := counted
  obtain ⟨flags, once⟩ := reparsed.calls
  have quiet : count.call? = none := call?_of_inside (by rw [counts.activity]; rfl)
  exact ⟨flags, by simp [once, notes.silent rfl, quiet]⟩

/-- A refresh asks the engine once at most, to build a unit anew. -/
theorem Refresh.calls (refresh : Refresh job row activity) :
    row.filterMap Act.call? = [] ∨ ∃ handle flags, row.filterMap Act.call? = [.reparse handle flags] := by
  cases refresh with
  | begun => exact .inl rfl
  | spared misses => exact .inl (by simp [misses.looks.silent rfl])
  | waits finds => exact .inl (by simp [finds.looks.silent rfl])
  | uses finds locks => exact .inl (by simp [finds.looks.silent rfl, locks.silent rfl])
  | panicked reparsed | renewed reparsed | refused reparsed => exact .inr ⟨_, reparsed.calls⟩
  | @done _ _ handle _ reparsed notes | @noted _ _ handle _ reparsed notes =>
    obtain ⟨flags, once⟩ := reparsed.calls
    exact .inr ⟨handle, flags, by simp [once, notes.silent rfl]⟩
  | counted counted => exact .inr ⟨_, counted.calls⟩
  | @failed _ evict handle counted evicts =>
    obtain ⟨flags, once⟩ := counted.calls
    have quiet : evict.call? = none := call?_of_inside (by rw [evicts.activity]; rfl)
    exact .inr ⟨handle, flags, by simp [once, quiet]⟩

theorem Reparsed.panicked {handle : Handle} (reparsed : Reparsed job handle .panic row) : panicked row = true := by
  obtain ⟨look, lock, call, _, _, _, _, answered⟩ := reparsed
  simp [Interleaving.panicked, answered, panics]

end Rows

section Steps

variable {job : Job κ} {row : List (Act α κ)} {act : Act α κ} {turn : Turn α κ} {request : Request}

theorem Refresh.find (keyed : Keyed act.store) (activity : act.frame.activity = .find job.request (.job job))
    (turned : act.turn? = some turn) : Leads turn (Refresh job [act]) fun _ => False := by
  obtain ⟨_, _, rule⟩ := rule_of_act activity turned
  cases rule with
  | find _ _ handle found fits =>
    exact .waits ⟨.of_turned activity turned rfl rfl rfl, found, keyed.units _ _ found, fits⟩
  | findNothing _ _ missing => exact .spared ⟨.of_turned activity turned rfl rfl rfl, missing⟩

theorem Refresh.renew {look lock : Act α κ} {handle : Handle} (finds : Finds job handle look)
    (locks : lock.Passes (.acquire handle (.refresh job.request (.job job))))
    (activity : act.frame.activity = .using handle (.refresh job.request (.job job)))
    (turned : act.turn? = some turn) : Leads turn (Refresh job [look, lock, act]) fun _ => False := by
  obtain ⟨_, chosen, rule⟩ := rule_of_act activity turned
  have asked : act.call? = some (.reparse handle act.store.flags) := by
    rw [Act.call?, activity]
    rfl
  cases rule with
  | askUse => trivial
  | refreshDone =>
    exact .renewed (.mk look lock act finds locks (.of_turned activity turned rfl rfl rfl) asked chosen)
  | refreshFailed =>
    exact .refused (.mk look lock act finds locks (.of_turned activity turned rfl rfl rfl) asked chosen)
  | refreshPanicked =>
    exact .panicked (.mk look lock act finds locks (.of_turned activity turned rfl rfl rfl) asked chosen)

theorem Refresh.evict {handle : Handle} (counted : Counted job handle row)
    (activity : act.frame.activity = .evict handle (.job job)) (turned : act.turn? = some turn) :
    Leads turn (Refresh job (row ++ [act])) fun _ => False := by
  obtain ⟨_, _, rule⟩ := rule_of_act activity turned
  cases rule with
  | evict =>
    refine .failed counted ⟨activity, ?_⟩
    rw [next?_of_turned turned rfl]
    rcases evictIfCurrent_cases act.store handle with ⟨entry, there, same, goes⟩ | ⟨apart, stays⟩
    · exact .inl ⟨entry, there, eq_of_beq same, congrArg some goes⟩
    · refine .inr ⟨fun entry there same => ?_, congrArg some stays⟩
      rw [there, Option.any_some, same, BEq.rfl] at apart
      cases apart

theorem Refresh.note {handle : Handle} {failure : Option Error} {answer : Answer α}
    (reparsed : Reparsed job handle answer row)
    (told : failure = none ∧ (∃ artifact, answer = .ok artifact) ∨
      ∃ error, failure = some error ∧ answer = .error error)
    (activity : act.frame.activity = .noteReparse handle job.request failure (.job job))
    (turned : act.turn? = some turn) : Leads turn (Refresh job (row ++ [act])) fun _ => False := by
  obtain ⟨_, _, rule⟩ := rule_of_act activity turned
  rcases told with ⟨rfl, artifact, rfl⟩ | ⟨error, rfl, rfl⟩
  · cases rule with
    | noteReparse => exact .done reparsed (.of_turned activity turned rfl rfl rfl)
  · cases rule with
    | noteReparseFailed => exact .noted reparsed (.of_turned activity turned rfl rfl rfl)

theorem Refresh.count {note : Act α κ} {handle : Handle} {error : Error}
    (reparsed : Reparsed job handle (.error error) row)
    (notes : note.Passes (.noteReparse handle job.request (some error) (.job job)))
    (activity : act.frame.activity = .noteReparseFailure handle job.request error (.job job))
    (turned : act.turn? = some turn) : Leads turn (Refresh job (row ++ [note, act])) fun _ => False := by
  obtain ⟨_, _, rule⟩ := rule_of_act activity turned
  cases rule with
  | noteReparseFailure =>
    exact .counted (.mk row note act error reparsed notes ⟨activity, _, next?_of_turned turned rfl, rfl, rfl⟩)

theorem Refresh.step (keyed : Keyed act.store) (refresh : Refresh job row act.frame.activity)
    (under_way : ¬Over job act.frame.activity) (turned : act.turn? = some turn) :
    Leads turn (Refresh job (row ++ [act])) fun _ => False := by
  generalize activity : act.frame.activity = doing at refresh under_way
  cases refresh with
  | begun => exact Refresh.find keyed activity turned
  | waits finds =>
    obtain ⟨_, _, rule⟩ := rule_of_act activity turned
    cases rule with
    | awaitUnit => trivial
    | acquire => exact .uses finds (.of_turned activity turned rfl rfl rfl)
  | uses finds locks => exact Refresh.renew finds locks activity turned
  | renewed reparsed => exact Refresh.note reparsed (.inl ⟨rfl, _, rfl⟩) activity turned
  | refused reparsed => exact Refresh.note reparsed (.inr ⟨_, rfl, rfl⟩) activity turned
  | noted reparsed notes =>
    rw [List.append_assoc]
    exact Refresh.count reparsed notes activity turned
  | counted counted => exact Refresh.evict counted activity turned
  | spared | done | failed => exact absurd .settles under_way
  | panicked => exact absurd .unwinds under_way

theorem Refreshing.settle (refreshed : Refreshed job row) (activity : act.frame.activity = .settle (.job job) none)
    (turned : act.turn? = some turn) :
    Leads turn (Refreshing job (row ++ [act])) fun _ => Refreshing.Ends job (row ++ [act]) := by
  have refreshed : Refreshed job (row ++ [act]) := refreshed.append (by simp [activity])
  have inside : act ∈ row ++ [act] := List.mem_append_right _ (List.mem_singleton.mpr rfl)
  obtain ⟨_, _, rule⟩ := rule_of_act activity turned
  cases rule with
  | settleAlone _ _ alone => cases alone
  | settle _ _ path owned kept =>
    cases owned
    have clears : Clears job act := ⟨activity, kept⟩
    cases called : job.callback with
    | none =>
      simp only [Owner.finish, called]
      exact ⟨refreshed, fun _ => ⟨act, inside, clears⟩⟩
    | some callback =>
      simp only [Owner.finish, called]
      exact .calls callback refreshed ⟨act, inside, clears⟩
  | takeOver _ _ path request owned given =>
    cases owned
    exact .builds refreshed ⟨act, inside, activity, given⟩ .load

theorem Refreshing.build (refreshed : Refreshed job row) (given : ∃ act ∈ row, Gives job request act)
    (rebuilds : Rebuilds job request act.frame.activity) (turned : act.turn? = some turn) :
    Leads turn (Refreshing job (row ++ [act])) fun _ => Refreshing.Ends job (row ++ [act]) := by
  have refreshed : Refreshed job (row ++ [act]) := refreshed.append fun handle use activity => by
    rw [activity] at rebuilds
    cases rebuilds
  have given : ∃ each ∈ row ++ [act], Gives job request each :=
    given.imp fun each gives => ⟨List.mem_append_left _ gives.1, gives.2⟩
  obtain ⟨_, chosen, rule⟩ := rule_of_act rfl turned
  generalize act.frame.activity = activity at rule rebuilds
  cases rebuilds with
  | load =>
    cases rule with
    | served => exact .settles refreshed
    | replaced => exact .builds refreshed given .replaced
    | absent => exact .builds refreshed given .build
  | replaced =>
    cases rule with
    | dropReplaced => exact .builds refreshed given .build
  | build =>
    cases rule with
    | build => exact .builds refreshed given .parsing
  | parsing =>
    cases rule with
    | askParse => trivial
    | parsed => exact .builds refreshed given (.keep _)
    | parseFailed => exact .builds refreshed given (.failed _)
    | parsePanicked => exact .unwinds _ refreshed (by simp [panicked_append, chosen, panics])
  | keep =>
    cases rule with
    | keep => exact .settles refreshed
  | failed =>
    cases rule with
    | noteFailure => exact .settles refreshed

theorem Refreshing.unwind {path : Path} (refreshed : Refreshed job row) (spoilt : panicked row = true)
    (activity : act.frame.activity = .unwind path) (turned : act.turn? = some turn) :
    Leads turn (Refreshing job (row ++ [act])) fun _ => Refreshing.Ends job (row ++ [act]) := by
  have ends : Refreshing.Ends job (row ++ [act]) :=
    ⟨refreshed.append (by simp [activity]), fun sound => by simp [panicked_append, spoilt] at sound⟩
  obtain ⟨_, _, rule⟩ := rule_of_act activity turned
  cases rule with
  | unwind => exact ends

theorem Refreshing.step (keyed : Keyed act.store) (refreshing : Refreshing job row act.frame.activity)
    (turned : act.turn? = some turn) :
    Leads turn (Refreshing job (row ++ [act])) fun _ => Refreshing.Ends job (row ++ [act]) := by
  generalize activity : act.frame.activity = doing at refreshing
  cases refreshing with
  | refreshes refresh =>
    by_cases ended : Over job doing
    · have refreshed := refresh.refreshed ended
      cases ended with
      | settles => exact Refreshing.settle refreshed activity turned
      | unwinds =>
        cases refresh with
        | panicked reparsed => exact Refreshing.unwind refreshed reparsed.panicked activity turned
    · have led := Refresh.step keyed (by rwa [activity]) (by rwa [activity]) turned
      cases turn with
      | next => exact .refreshes led
      | done => exact led.elim
      | _ => trivial
  | settles refreshed => exact Refreshing.settle refreshed activity turned
  | builds refreshed given rebuilds => exact Refreshing.build refreshed given (by rwa [activity]) turned
  | unwinds path refreshed spoilt => exact Refreshing.unwind refreshed spoilt activity turned
  | calls callback refreshed cleared =>
    have refreshed : Refreshed job (row ++ [act]) := refreshed.append (by simp [activity])
    have cleared : ∃ each ∈ row ++ [act], Clears job each :=
      cleared.imp fun each clears => ⟨List.mem_append_left _ clears.1, clears.2⟩
    obtain ⟨_, _, rule⟩ := rule_of_act activity turned
    cases rule with
    | call => trivial
    | returned => exact ⟨refreshed, fun _ => cleared⟩

end Steps

/-- A job was given a request that somebody had put down while the path was marked for it, and nobody another one
since. -/
def Granted (number : Nat) (request : Request) (row : List (Nat × Deed)) : Prop :=
  ∃ earlier adder first other last entry rest, row = earlier ++ (adder, .refreshing) ::
      (first ++ (other, .recorded request) :: last) ++ (number, .tookOver request entry true) :: rest ∧
    LeftToWorker (some number) (first ++ (other, .recorded request) :: last) ∧ ∀ pair ∈ last, pair.2.touches = false

/-- A job has taken the mark off that its path had for it. If requests were put down meanwhile, the last of them is
fulfilled. -/
def Discharged (number : Nat) (row : List (Nat × Deed)) : Prop :=
  ∃ earlier adder since found entry rest, row = earlier ++ (adder, .refreshing) :: since ++
      (number, .cleared found entry) :: rest ∧ LeftToWorker (some number) since ∧
    ∀ first other request last, since = first ++ (other, .recorded request) :: last →
      (∀ pair ∈ last, ∀ request, pair.2 ≠ .recorded request) → Fulfilled number request found entry last

section Runs

variable {flags : ParseFlags} {capacity : Nat} {roles : List Role} {history : List (Moment α κ)} {system : System α κ}
  {number : Nat} {job : Job κ}

def Renewing (row : List (Act α κ)) (task : Task κ) (activity : Activity α κ) : Prop :=
  ∀ job, task = .job job → job.kind = .reparse → Refreshing job row activity

def Renewed (row : List (Act α κ)) (task : Task κ) (_ : Outcome) : Prop :=
  ∀ job, task = .job job → job.kind = .reparse → Refreshing.Ends job row

theorem Run.renewing (run : Run flags capacity roles history system) (number : Nat) (task : Task κ)
    (begun : (number, task) ∈ Interleaving.started history) : Fares Renewing Renewed history system number task := by
  refine run.fares ?_ ?_ number task begun
  · rintro task activity first job rfl kind
    cases first with
    | job =>
      rw [Activity.ofJob, kind]
      exact .refreshes .begun
  · intro earlier before move act row turn run told turned kept
    generalize act.frame.task = task at kept ⊢
    cases task with
    | job job =>
      by_cases kind : job.kind = .reparse
      · have led := Refreshing.step (run.keyed_of_act told) (kept job rfl kind) turned
        cases turn with
        | next => rintro _ ⟨⟩ _; exact led
        | done => rintro _ ⟨⟩ _; exact led
        | _ => trivial
      · cases turn with
        | next | done => rintro _ ⟨⟩ same; exact absurd same kind
        | _ => trivial
    | _ => cases turn <;> first | trivial | (rintro _ ⟨⟩)

theorem Run.refreshing (run : Run flags capacity roles history system)
    (begun : (number, .job job) ∈ Interleaving.started history) (kind : job.kind = .reparse) :
    (∃ activity, Refreshing job (acts number history) activity ∧ outcome? number history = none ∧
      ⟨number, .job job, activity⟩ ∈ system.frames) ∨
    Refreshing.Ends job (acts number history) ∧ number ∉ system.numbers := by
  cases run.renewing number _ begun with
  | goes_on activity inside pending kept => exact .inl ⟨activity, kept job rfl kind, pending, inside⟩
  | finished gone _ _ ended => exact .inr ⟨ended job rfl kind, gone⟩

def settlement (store : Store α κ) (path : Path) : Deed :=
  match (store.settle path).1 with
  | some request => .tookOver request (store.peek path) true
  | none => .cleared (store.pending.get? path) (store.peek path)

theorem Run.made_at {earlier later : List (Moment α κ)} {moment : Moment α κ}
    (run : Run flags capacity roles (earlier ++ moment :: later) system) :
    Run flags capacity roles earlier moment.system ∧ ∃ next, moment.system.move? moment.move = some next := by
  induction later using List.reverseRecOn generalizing system with
  | nil => exact run.last.imp_right fun made => ⟨_, made⟩
  | append_singleton later last ih =>
    rw [← List.cons_append, ← List.append_assoc] at run
    exact ih run.last.1

theorem at?_of_settle {before : System α κ} {move : Move α κ} {act : Act α κ}
    (told : Moment.act? ⟨before, move⟩ = some act) (activity : act.frame.activity = .settle (.job job) none) :
    (⟨before, move⟩ : Moment α κ).at? job.request.path =
      some (act.frame.number, settlement act.store job.request.path) := by
  have proceeds : act.choice = .proceed := by
    obtain ⟨turn, turned⟩ := turned_of_act told
    obtain ⟨_, chosen, rule⟩ := rule_of_act activity turned
    rw [chosen]
    cases rule <;> rfl
  rw [at?_of_act told, proceeds]
  simp only [Frame.deed?, activity, deedOf, Owner.path?, Option.map_some]
  rw [onPath_same _ BEq.rfl]
  rfl

/-- When a job settles that builds a unit anew, its path has been marked for it all the time. -/
theorem Run.settlement_of_act (run : Run flags capacity roles history system) {act : Act α κ}
    (inside : act ∈ acts number history) (activity : act.frame.activity = .settle (.job job) none)
    (kind : job.kind = .reparse) :
    ∃ earlier adder since rest phase next later, deeds job.request.path history = earlier ++ (adder, .refreshing) ::
        since ++ (number, settlement act.store job.request.path) :: rest ∧ LeftToWorker (some number) since ∧
      Course job.request.path (earlier ++ (adder, .refreshing) :: since) (view act.store job.request.path) phase ∧
      Passage job.request.path (some (number, settlement act.store job.request.path)) (view act.store job.request.path)
        phase next later := by
  obtain ⟨among, own⟩ := List.mem_filter.mp inside
  obtain rfl := eq_of_beq own
  obtain ⟨before_it, before, move, later, rfl, _, told⟩ := run.at_act among
  obtain ⟨reached, next, made⟩ := run.made_at
  obtain ⟨earlier, adder, since, split, left_to⟩ := reached.refreshers.running act.frame (act_inside told) job _
    (by rw [activity]; rfl) kind
  have course := reached.course job.request.path
  have passage := passage_of_move reached.sound.1 reached.sound.2 made job.request.path
  rw [split, ← act_store told] at course
  rw [at?_of_settle told activity, ← act_store told] at passage
  refine ⟨earlier, adder, since, deeds job.request.path later, _, _, _, ?_, left_to, course, passage⟩
  simp [deeds, at?_of_settle told activity, ← split]

/-- A job that builds a unit anew is given only what was put down while its path was marked for it. -/
theorem Run.granted (run : Run flags capacity roles history system) {act : Act α κ} {request : Request}
    (inside : act ∈ acts number history) (gives : Gives job request act) (kind : job.kind = .reparse) :
    Granted number request (deeds job.request.path history) := by
  obtain ⟨earlier, adder, since, rest, phase, _, _, split, left_to, course, _⟩ :=
    run.settlement_of_act inside gives.activity kind
  obtain ⟨first, other, last, rfl, quiet⟩ :=
    course.recorded_since (settle_stale act.store job.request.path request gives.given).1
  have deed : settlement act.store job.request.path = .tookOver request (act.store.peek job.request.path) true := by
    rw [settlement, gives.given]
  rw [deed] at split
  exact ⟨earlier, adder, first, other, last, _, rest, split, left_to, quiet⟩

/-- A job that builds a unit anew takes the mark off when the last request that was put down meanwhile is fulfilled. -/
theorem Run.discharged (run : Run flags capacity roles history system) {act : Act α κ}
    (inside : act ∈ acts number history) (clears : Clears job act) (kind : job.kind = .reparse) :
    Discharged number (deeds job.request.path history) := by
  obtain ⟨earlier, adder, since, rest, phase, next, later, split, left_to, course, passage⟩ :=
    run.settlement_of_act inside clears.activity kind
  have deed : settlement act.store job.request.path =
      .cleared (act.store.pending.get? job.request.path) (act.store.peek job.request.path) := by
    rw [settlement, clears.cleared]
  rw [deed] at split passage
  refine ⟨earlier, adder, since, _, _, rest, split, left_to, ?_⟩
  rintro first other request last rfl none_later
  rw [← List.cons_append, ← List.append_assoc] at course
  refine course.fulfilled passage (fun pair inside => left_to pair ?_) none_later
  exact List.mem_append_right _ (List.mem_cons_of_mem _ inside)

/-- A job refreshes, asking the engine once at most, to build a unit anew; and then it does so no more. -/
def OneRefresh (job : Job κ) (row : List (Act α κ)) : Prop :=
  ∃ refresh rest behind, row = refresh ++ rest ∧ Refresh job refresh behind ∧
    (refresh.filterMap Act.call? = [] ∨ ∃ handle flags, refresh.filterMap Act.call? = [.reparse handle flags]) ∧
    (rest ≠ [] → Over job behind) ∧ ∀ act ∈ rest, ∀ handle flags, act.call? ≠ some (.reparse handle flags)

structure RefreshesOnly (number : Nat) (job : Job κ) (history : List (Moment α κ)) (system : System α κ) : Prop where
  ways : OneRefresh job (acts number history)
  /-- While it has the engine build a unit, that is for a request put down since the path was marked for it. -/
  builds : ∀ frame ∈ system.frames, frame.number = number → ∀ request owner, frame.activity = .parsing request owner →
    Granted number request (deeds job.request.path history)
  /-- When it settles and takes the mark off, the last request is fulfilled that was put down meanwhile. -/
  clears : ∀ act ∈ acts number history, Clears job act → Discharged number (deeds job.request.path history)
  /-- It does not end before that, unless the engine panics. -/
  ends : ∀ outcome, outcome? number history = some outcome → panicked (acts number history) = false →
    ∃ act ∈ acts number history, Clears job act

theorem Refreshed.ways {row : List (Act α κ)} (refreshed : Refreshed job row) : OneRefresh job row := by
  obtain ⟨rest, first, ended, once⟩ := refreshed
  exact ⟨_, rest, _, rfl, first, first.calls, fun _ => ended, once⟩

theorem Refreshing.ways {row : List (Act α κ)} {activity : Activity α κ} (refreshing : Refreshing job row activity) :
    OneRefresh job row := by
  cases refreshing with
  | refreshes refresh => exact ⟨row, [], _, by simp, refresh, refresh.calls, by simp, by simp⟩
  | settles refreshed | builds refreshed | unwinds _ refreshed | calls _ refreshed => exact refreshed.ways

/-- A job that builds a unit anew looks for the unit once, and asks the engine once, to build that very unit anew, if it
is there as the job wants it; else it does not ask. A unit that was put in its place meanwhile stays as it is. What the
job has the engine build are requests put down since the path was marked for it, and it does not take the mark off but
with the last of them fulfilled. -/
theorem refresh_spares_newer_units (run : Run flags capacity roles history system)
    (begun : (number, .job job) ∈ started history) (kind : job.kind = .reparse) :
    RefreshesOnly number job history system where
  ways := by
    rcases run.refreshing begun kind with ⟨_, refreshing, _⟩ | ⟨ended, _⟩
    · exact refreshing.ways
    · exact ended.refreshed.ways
  builds frame inside own request owner parsing := by
    rcases run.refreshing begun kind with ⟨activity, refreshing, _, there⟩ | ⟨_, gone⟩
    · obtain rfl : frame = ⟨number, .job job, activity⟩ := run.frame_eq inside there own
      cases parsing
      cases refreshing with
      | refreshes refresh =>
        generalize acts number history = row at refresh
        cases refresh
      | builds _ given rebuilds =>
        cases rebuilds
        obtain ⟨act, among, gives⟩ := given
        exact run.granted among gives kind
    · exact absurd (own ▸ List.mem_map_of_mem inside) gone
  clears act among clears := run.discharged among clears kind
  ends outcome told sound := by
    rcases run.refreshing begun kind with ⟨_, _, pending, _⟩ | ⟨ended, _⟩
    · rw [told] at pending
      cases pending
    · exact ended.cleared sound

end Runs

/-- While a worker builds a unit anew, a client asks for it with other options; so the unit leaves the cache, and the
worker builds it with these options then. -/
def changedMeanwhile : List (Move Unit Unit) :=
  refreshQueued ++ [.thread 1 .take, .thread 1 .proceed, .thread 1 .proceed,
    .thread 0 (.call (.getUnit ⟨⟨"a.c"⟩, ["-O3"], none⟩)), .thread 0 .proceed, .thread 0 .proceed, .thread 0 .proceed,
    .thread 1 (.reparsed (.ok ())), .thread 1 .proceed, .thread 1 .proceed, .thread 1 .proceed, .thread 1 .proceed,
    .thread 1 (.parsed (.ok ())), .thread 1 .proceed, .thread 1 .proceed]

theorem change_of_options_outlives_refresh :
    ∃ (history : List (Moment Unit Unit)) (system : System Unit Unit),
      Run ⟨0⟩ 1 [.client, .worker] history system ∧
      (9, .job ⟨⟨⟨"a.c"⟩, ["-O2"], none⟩, .reparse, none⟩) ∈ started history ∧
      system.store.peek ⟨"a.c"⟩ = some ⟨1, ⟨⟨"a.c"⟩, ["-O3"], none⟩⟩ ∧ system.frames = [] ∧
      RefreshesOnly 9 ⟨⟨⟨"a.c"⟩, ["-O2"], none⟩, .reparse, none⟩ history system := by
  obtain ⟨history, system, run, checked⟩ := Run.of_follow ⟨0⟩ 1 [.client, .worker] changedMeanwhile
    (fun history system => departed history == [(some 9, ⟨⟨⟨"a.c"⟩, ["-O2"], none⟩, .reparse, none⟩)] &&
      (system.frames.isEmpty && system.store.peek ⟨"a.c"⟩ == some ⟨1, ⟨⟨"a.c"⟩, ["-O3"], none⟩⟩)) (by decide)
  simp only [Bool.and_eq_true, List.isEmpty_iff, beq_iff_eq] at checked
  obtain ⟨left, idle, built⟩ := checked
  have begun := (run.departed.1 9 _).mpr (by rw [left]; exact List.mem_singleton.mpr rfl)
  exact ⟨history, system, run, begun, built, idle, refresh_spares_newer_units run begun rfl⟩

end UnitCache.Interleaving
