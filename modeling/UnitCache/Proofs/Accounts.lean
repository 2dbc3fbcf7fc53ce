import Mathlib.Data.List.Perm.Subperm
import UnitCache.CommandLine.Run
import UnitCache.Proofs.Alone
/-!
What is told once files were built, each by a call of its own and in any order. Each file is built once, and comes under
those that could not be built if and only if the engine has said so; and so it is when the calls are made one after the
other.
-/
namespace UnitCache.Interleaving

variable {α κ : Type}

def refused (log : List (Request × Answer α)) (request : Request) : Bool :=
  log.any fun entry => entry.1 == request && refuses entry.2

def cameWithout (history : List (Moment α κ)) (number : Nat) : Bool :=
  match outcome? number history with
  | some (.unit none) => true
  | _ => false

def wentWithout (history : List (Moment α κ)) (request : Request) : Bool :=
  (started history).any fun pair => pair.2.call? == some request && cameWithout history pair.1

inductive ComesBack (history : List (Moment α κ)) (number : Nat) : Answer α → Prop where
  | built (artifact : α) (handle : Handle) (told : outcome? number history = some (.unit (some handle))) :
      ComesBack history number (.ok artifact)
  | failed (error : Error) (told : outcome? number history = some (.unit none)) :
      ComesBack history number (.error error)

def fileRequest (options : List String) (file : Path) : Request := { path := file, options }

def matching (extensions : List String) (walk : List Path) : List Path :=
  walk.filter fun file => file.extension?.any fun extension => extensions.contains extension

def reported (history : List (Moment α κ)) (options : List String) (files : List Path) : List Path :=
  files.filter fun file => wentWithout history (fileRequest options file)

def warmOutput (directory : Path) (files failed : List Path) (stats : CacheStats) : List CommandLine.Piece :=
  CommandLine.line ("📂 Warming " ++ toString files.length ++ " files under " ++ directory.text) ::
    (failed.map fun file => CommandLine.line ("   ⚠️  " ++ file.text)) ++ CommandLine.summary stats

/-- Clients have called for the units of files, for each file at most once, and done nothing else; and the engine has
not panicked. -/
structure CallsFor (options : List String) (files : List Path) (history : List (Moment α κ)) : Prop
    extends UnitCalls history where
  row : (called history).Subperm (files.map (fileRequest options))

/-- A run in which files are built by clients, in any order, while no thread has all units built anew. -/
structure WarmRun (options : List String) (files : List Path) (flags : ParseFlags) (capacity : Nat) (roles : List Role)
    (history : List (Moment α κ)) (system : System α κ) : Prop extends CallsFor options files history where
  run : Run flags capacity roles history system
  untimed : Role.ticker ∉ roles

/-- Such a run is over when all files were called for, and all calls have come back. -/
structure IsOver (files : List Path) (history : List (Moment α κ)) (system : System α κ) : Prop where
  idle : system.frames = []
  all : (called history).length = files.length

/-- Every file is accounted for, once. -/
structure Warmed (options : List String) (files : List Path) (history : List (Moment α κ)) (system : System α κ) :
    Prop where
  /-- The engine has built each file once, and no other; and it was asked for nothing else. -/
  built : ((parses history).map Prod.fst).Perm (files.map (fileRequest options))
  silent : ∀ act ∈ allActs history, act.fromEngine = true → act.parse?.isSome = true
  /-- No call has met a unit, a mark or a request of another one. -/
  blank : ∀ act ∈ allActs history, ∀ request, act.frame.activity = .lookUp request →
    view act.store request.path = .blank
  /-- Each call has come back, as the engine has answered it. -/
  answered : ∀ file ∈ files, ∃ number answer,
    (number, .operation (.getUnit (fileRequest options file))) ∈ started history ∧
      Asked (fileRequest options file) answer (acts number history) ∧ ComesBack history number answer
  reported : reported history options files =
    files.filter fun file => refused (parses history) (fileRequest options file)
  /-- Nothing is marked, queued or put down any more. -/
  stats : system.store.stats =
    { units := files.length - (Interleaving.reported history options files).length
      parsing := 0
      queued := 0
      parses := .ofNat files.length
      reparses := 0
      invalidations := 0
      failures := .ofNat (Interleaving.reported history options files).length }
  /-- The counters do not wrap for as many files as a list in memory can have. -/
  numbers : files.length < 2 ^ 64 →
    (system.store.stats.parses : Nat) = files.length ∧
    (system.store.stats.failures : Nat) = (Interleaving.reported history options files).length ∧
    system.store.stats.units = system.store.stats.parses - (system.store.stats.failures : Nat)
  pending : ∀ path, system.store.pending.get? path = none

section Logs

variable {log : List (Request × Answer α)}

theorem refused_of_mem (single : (log.map Prod.fst).Nodup) {entry : Request × Answer α} (inside : entry ∈ log) :
    refused log entry.1 = refuses entry.2 := by
  have same (other : Request × Answer α) (there : other ∈ log) (own : other.1 = entry.1) : other = entry :=
    List.inj_on_of_nodup_map single there inside own
  rw [Bool.eq_iff_iff, refused, List.any_eq_true]
  constructor
  · rintro ⟨other, there, told⟩
    rw [Bool.and_eq_true, beq_iff_eq] at told
    rw [same other there told.1] at told
    exact told.2
  · intro told
    exact ⟨_, inside, by simp [told]⟩

theorem countP_refused (single : (log.map Prod.fst).Nodup) :
    (log.map Prod.fst).countP (refused log) = log.countP fun entry => refuses entry.2 := by
  rw [List.countP_map]
  exact List.countP_congr fun entry inside => by rw [Function.comp_apply, refused_of_mem single inside]

theorem paths_refused {options : List String} {files : List Path}
    (logged : log.map Prod.fst = files.map (fileRequest options)) (single : (files.map (fileRequest options)).Nodup) :
    ((log.filter fun entry => refuses entry.2).map fun entry => entry.1.path) =
      files.filter fun file => refused log (fileRequest options file) := by
  have paths : files = log.map fun entry => entry.1.path := by
    have same := congrArg (List.map Request.path) logged
    simpa [Function.comp_def, fileRequest] using same.symm
  have own {entry : Request × Answer α} (inside : entry ∈ log) : fileRequest options entry.1.path = entry.1 := by
    have there : entry.1 ∈ files.map (fileRequest options) := logged ▸ List.mem_map_of_mem inside
    obtain ⟨file, _, same⟩ := List.mem_map.mp there
    rw [← same]
    rfl
  conv_rhs => rw [paths, List.filter_map]
  congr 1
  refine List.filter_congr fun entry inside => ?_
  rw [Function.comp_apply, own inside, refused_of_mem (logged ▸ single) inside]

end Logs

section Files

variable {options : List String} {files : List Path} {history : List (Moment α κ)}

theorem nodup_of_apart (distinct : files.Pairwise fun left right => (left == right) = false) :
    (files.map (fileRequest options)).Nodup := by
  rw [List.Nodup, List.pairwise_map]
  refine distinct.imp fun {left right} away same => ?_
  have spelled : left = right := congrArg Request.path same
  rw [spelled, BEq.rfl] at away
  cases away

theorem CallsFor.onlyCalls (calls : CallsFor options files history)
    (distinct : files.Pairwise fun left right => (left == right) = false) : OnlyCalls history := by
  refine ⟨calls.toUnitCalls, ?_⟩
  obtain ⟨some_of_them, same, sub⟩ := calls.row
  have apart : (files.map (fileRequest options)).Pairwise fun left right => (left.path == right.path) = false :=
    List.pairwise_map.mpr distinct
  exact same.pairwise (apart.sublist sub) apart_symm

end Files

section Runs

variable {flags : ParseFlags} {capacity : Nat} {roles : List Role} {history : List (Moment α κ)} {system : System α κ}
  {options : List String} {files : List Path}

theorem turned_of_mem {act : Act α κ} (inside : act ∈ allActs history) : ∃ turn, act.turn? = some turn := by
  obtain ⟨⟨before, move⟩, _, told⟩ := List.mem_filterMap.mp inside
  cases move with
  | thread index choice =>
    simp only [Moment.act?, Option.bind_eq_bind, Option.bind_eq_some_iff, Option.ite_none_right_eq_some,
      Option.some.injEq] at told
    obtain ⟨thread, _, frame, _, turned, rfl⟩ := told
    exact Option.isSome_iff_exists.mp turned
  | _ => cases told

theorem Asked.logged {number : Nat} {request : Request} {answer : Answer α}
    (asked : Asked request answer (acts number history)) : (request, answer) ∈ parses history := by
  obtain ⟨parse, owner, row, activity, chosen⟩ := asked.once
  have inside : parse ∈ (acts number history).filter Act.fromEngine := by
    rw [row]
    exact List.mem_singleton.mpr rfl
  have there : parse ∈ allActs history := (List.mem_filter.mp (List.mem_filter.mp inside).1).1
  exact List.mem_filterMap.mpr ⟨parse, there, by rw [Act.parse?, activity, chosen]⟩

/-- A call that nobody disturbs never waits. -/
theorem Warming.goesOn (warming : Warming history system) {index : Nat} {thread : Thread α κ} {frame : Frame α κ}
    {rest : List (Frame α κ)} (found : system.threads[index]? = some thread) (stack : thread.stack = frame :: rest) :
    CanGoOn system index thread := by
  refine (goesOn_or_waits found stack).resolve_right fun waits => ?_
  have inside : frame ∈ system.frames := List.mem_flatMap.mpr ⟨thread, List.mem_of_getElem? found, by simp [stack]⟩
  obtain ⟨request, _, undisturbed⟩ := warming.frames frame inside
  generalize frame.activity = activity at undisturbed waits
  cases undisturbed <;> cases waits

theorem Warming.unmarked (warming : Warming history system) (idle : system.frames = []) :
    system.store.parsing.size = 0 := by
  rw [PathMap.size, PathMap.entries_eq_nil fun path => ?_]
  · rfl
  · by_contra marked
    obtain ⟨frame, inside, _⟩ := warming.owned path ((Bool.not_eq_false _).mp marked)
    simp [idle] at inside

namespace Tally

variable (tally : Tally history system)
include tally

theorem bounded (calls : CallsFor options files history) : (allActs history).length ≤ 5 * files.length := by
  have nearer := tally.nearer
  have few : (called history).length ≤ files.length := by simpa using calls.row.length_le
  omega

theorem blank {act : Act α κ} (inside : act ∈ allActs history) {request : Request}
    (looks : act.frame.activity = .lookUp request) : view act.store request.path = .blank := by
  obtain ⟨own, undisturbed⟩ := tally.plain act inside
  rw [looks] at undisturbed
  cases undisturbed with
  | looks blank => exact blank

theorem logged {act : Act α κ} (inside : act ∈ allActs history) (speaks : act.fromEngine = true) :
    ∃ answer request, act.choice = .parsed answer ∧ act.parse? = some (request, answer) := by
  obtain ⟨request, undisturbed⟩ := tally.plain act inside
  obtain ⟨turn, turned⟩ := turned_of_mem inside
  obtain ⟨answer, chosen, told⟩ := parse_of_undisturbed undisturbed turned speaks
  exact ⟨answer, request, chosen, told⟩

theorem total_failed : total Act.parseFailed history = (parses history).countP fun entry => refuses entry.2 := by
  rw [total, parses, List.countP_filterMap]
  refine List.countP_congr fun act inside => ?_
  cases speaks : act.fromEngine with
  | true =>
    obtain ⟨answer, request, chosen, told⟩ := tally.logged inside speaks
    rw [Act.parseFailed, chosen, told]
    cases answer <;> rfl
  | false =>
    cases chosen : act.choice <;> simp_all [Act.fromEngine, Act.parseFailed, Act.parse?]

theorem total_none {kind : Act α κ → Bool}
    (never : ∀ act request, Undisturbed act.store request act.frame.activity → kind act = false) :
    total kind history = 0 := by
  rw [total, List.countP_eq_zero]
  intro act inside
  obtain ⟨request, undisturbed⟩ := tally.plain act inside
  simp [never act request undisturbed]

theorem comesBack (run : Run flags capacity roles history system) (idle : system.frames = []) {number : Nat}
    {request : Request} (began : (number, .operation (.getUnit request)) ∈ started history) :
    ∃ answer, Asked request answer (acts number history) ∧ ComesBack history number answer := by
  have blank {look : Act α κ} {rest : List (Act α κ)} {held left : View} (row : acts number history = look :: rest)
      (does : look.Does (.lookUp request) request.path held left) : held = .blank := by
    have inside : look ∈ acts number history := row ▸ List.mem_cons_self
    rw [← does.held]
    exact tally.blank (List.mem_filter.mp inside).1 does.activity
  cases run.calling number _ began with
  | goes_on _ inside => simp [idle] at inside
  | finished gone outcome told =>
    obtain ⟨result, rfl⟩ : ∃ result, outcome = .unit result := by
      obtain ⟨act, last, ends⟩ := Option.bind_eq_some_iff.mp told
      obtain ⟨own, undisturbed⟩ := tally.plain act (List.mem_filter.mp (List.mem_of_getLast? last)).1
      exact unit_of_undisturbed undisturbed ends
    have answered := run.answered began told
    cases result with
    | none =>
      cases answered with
      | recorded look rest held row absent marked looks =>
        rw [blank row looks] at marked
        cases marked
      | failed look rest held left error row absent looks asked => exact ⟨_, asked, .failed error told⟩
    | some handle =>
      cases serves : handle.request.serves request with
      | false =>
        obtain ⟨look, drop, rest, held, row, there, looks, _⟩ := (answered.2.2 serves).ways
        rw [blank row looks] at there
        cases there
      | true =>
        cases answered.2.1 serves with
        | found look rest held row there looks =>
          rw [blank row looks] at there
          cases there
        | built look rest held left artifact keep owner was row absent looks asked =>
          exact ⟨_, asked, .built artifact handle told⟩

end Tally

section Over

variable (run : Run flags capacity roles history system) (tally : Tally history system)
  (calls : CallsFor options files history) (ended : IsOver files history system)
include calls ended

theorem CallsFor.everyone : (called history).Perm (files.map (fileRequest options)) :=
  calls.row.perm_of_length_le (by rw [List.length_map, ended.all])

include tally

theorem Tally.built : ((parses history).map Prod.fst).Perm (files.map (fileRequest options)) := by
  have parsed := tally.parsed
  rw [ended.idle, List.filterMap_nil, List.append_nil] at parsed
  exact parsed.symm.trans (calls.everyone ended)

include run

theorem Tally.answered {file : Path} (inside : file ∈ files) : ∃ number answer,
    (number, .operation (.getUnit (fileRequest options file))) ∈ started history ∧
      Asked (fileRequest options file) answer (acts number history) ∧ ComesBack history number answer := by
  have wanted : fileRequest options file ∈ called history :=
    (calls.everyone ended).symm.subset (List.mem_map_of_mem inside)
  obtain ⟨⟨number, task⟩, began, call⟩ := List.mem_filterMap.mp wanted
  obtain ⟨request, rfl⟩ := tally.tasks _ began
  cases call
  obtain ⟨answer, asked, back⟩ := tally.comesBack run ended.idle began
  exact ⟨number, answer, began, asked, back⟩

theorem Tally.reported (distinct : files.Pairwise fun left right => (left == right) = false) :
    reported history options files =
      files.filter fun file => refused (parses history) (fileRequest options file) := by
  have single : ((parses history).map Prod.fst).Nodup :=
    (tally.built calls ended).nodup_iff.mpr (nodup_of_apart distinct)
  refine List.filter_congr fun file inside => ?_
  obtain ⟨number, answer, began, asked, back⟩ := tally.answered run calls ended inside
  have own : cameWithout history number = refuses answer := by
    cases back with
    | built _ _ told | failed _ told => rw [cameWithout, told]; rfl
  have known : refused (parses history) (fileRequest options file) = refuses answer :=
    refused_of_mem single asked.logged
  rw [known, ← own, Bool.eq_iff_iff, wentWithout, List.any_eq_true]
  constructor
  · rintro ⟨pair, there, same⟩
    rw [Bool.and_eq_true, beq_iff_eq] at same
    have number_eq : pair.1 = number := by
      by_contra other
      have away := (calls.onlyCalls distinct).apart_of_started there began other same.1 rfl
      rw [BEq.rfl] at away
      cases away
    rw [← number_eq]
    exact same.2
  · exact fun without => ⟨_, began, by simp [Task.call?, without]⟩

theorem Tally.stats (warming : Warming history system)
    (distinct : files.Pairwise fun left right => (left == right) = false) :
    system.store.stats =
      { units := files.length - (Interleaving.reported history options files).length
        parsing := 0
        queued := 0
        parses := .ofNat files.length
        reparses := 0
        invalidations := 0
        failures := .ofNat (Interleaving.reported history options files).length } := by
  have built := tally.built calls ended
  have single : ((parses history).map Prod.fst).Nodup := built.nodup_iff.mpr (nodup_of_apart distinct)
  have failed : (Interleaving.reported history options files).length = total Act.parseFailed history := by
    rw [tally.reported run calls ended distinct, ← List.countP_eq_length_filter, tally.total_failed,
      ← countP_refused single, built.countP_eq, List.countP_map]
    rfl
  have evicts := tally.total_none fun _ _ undisturbed => (quiet_of_undisturbed undisturbed).1
  have refreshFailed := tally.total_none fun _ _ undisturbed => (quiet_of_undisturbed undisturbed).2.1
  have refreshReturned := tally.total_none fun _ _ undisturbed => (quiet_of_undisturbed undisturbed).2.2.1
  have invalid := tally.total_none fun _ _ undisturbed => (quiet_of_undisturbed undisturbed).2.2.2
  have panicked : total Act.parsePanicked history = 0 := by
    rw [total, List.countP_eq_zero]
    intro act inside yes
    unfold Act.parsePanicked at yes
    split at yes
    next panic => exact calls.calm act inside panic
    next => cases yes
  have all : total (Act.counts .parses) history = files.length := by
    have counted := tally.counted
    rw [weigh_of_idle ended.idle, ended.all] at counted
    exact counted
  obtain ⟨parses, failures, reparses, _⟩ := run.balanced_at_rest ended.idle
  rw [refreshFailed, Nat.add_zero, ← failed] at failures
  have shown := run.balanced.counters
  have units : system.store.units.size = files.length - (Interleaving.reported history options files).length := by
    omega
  have parses_shown : system.store.counters.parses = _ := shown .parses
  have reparses_shown : system.store.counters.reparses = _ := shown .reparses
  have invalid_shown : system.store.counters.invalidations = _ := shown .invalidations
  have failures_shown : system.store.counters.failures = _ := shown .failures
  rw [Store.stats, units, warming.queue, warming.unmarked ended.idle, parses_shown, reparses_shown, invalid_shown,
    failures_shown, all, reparses, refreshReturned, invalid, failures]
  rfl

end Over

theorem WarmRun.warming (warms : WarmRun options files flags capacity roles history system)
    (distinct : files.Pairwise fun left right => (left == right) = false) :
    Warming history system ∧ Tally history system :=
  warms.run.warming warms.untimed (warms.onlyCalls distinct)

/-- When all calls are over, every file is accounted for. -/
theorem WarmRun.warmed (warms : WarmRun options files flags capacity roles history system)
    (distinct : files.Pairwise fun left right => (left == right) = false) (ended : IsOver files history system) :
    Warmed options files history system := by
  obtain ⟨warming, tally⟩ := warms.warming distinct
  have calls := warms.toCallsFor
  have stats := tally.stats warms.run calls ended warming distinct
  refine ⟨tally.built calls ended, fun act inside speaks => ?_,
    fun act inside request looks => tally.blank inside looks,
    fun file inside => tally.answered warms.run calls ended inside, tally.reported warms.run calls ended distinct,
    stats, fun few => ?_, warming.pending⟩
  · obtain ⟨_, _, _, logged⟩ := tally.logged inside speaks
    rw [logged]
    rfl
  · have fewer : (reported history options files).length ≤ files.length := List.length_filter_le ..
    have parses : (UInt64.ofNat files.length).toNat = files.length := UInt64.toNat_ofNat_of_lt few
    have failures : (UInt64.ofNat (reported history options files).length).toNat =
        (reported history options files).length := UInt64.toNat_ofNat_of_lt (Nat.lt_of_le_of_lt fewer few)
    rw [stats]
    exact ⟨parses, failures, by rw [parses, failures]⟩

end Runs

section Commands

variable {session : CommandLine.Session}

def answersOf (engine : Engine) : List Request → World → List (Request × Answer Artifact)
  | [], _ => []
  | request :: rest, world =>
    (request, (engine.parse world request).1) :: answersOf engine rest (engine.parse world request).2

theorem map_answersOf (engine : Engine) (requests : List Request) (world : World) :
    (answersOf engine requests world).map Prod.fst = requests := by
  induction requests generalizing world with
  | nil => rfl
  | cons request rest ih => rw [answersOf, List.map_cons, ih]

theorem Solo.blank {flags : ParseFlags} {capacity : Nat} {calls : List Request} {log : List (Request × Answer Artifact)}
    {store : Store Artifact Empty} (solo : Solo flags capacity calls log store []) (path : Path)
    (apart : calls.Pairwise fun left right => (left.path == right.path) = false)
    (fresh : ∀ request ∈ calls, (request.path == path) = false) : view store path = .blank := by
  obtain ⟨history, clock, run, only, rfl, rfl⟩ := solo.reached
  exact (run.warming (by simp) ⟨only, apart⟩).1.fresh path fresh

/-- A client alone has all files built, one after the other. -/
theorem Solo.warmFiles {flags : ParseFlags} {capacity : Nat} {calls : List Request}
    {log : List (Request × Answer Artifact)} (solo : Solo flags capacity calls log session.store [])
    (options : List String) (files : List Path)
    (apart : (calls ++ files.map (fileRequest options)).Pairwise fun left right => (left.path == right.path) = false) :
    Solo flags capacity (calls ++ files.map (fileRequest options))
      (log ++ answersOf session.engine (files.map (fileRequest options)) session.world)
      (CommandLine.warmFiles options files session).2.store [] ∧
    (CommandLine.warmFiles options files session).1 =
      ((answersOf session.engine (files.map (fileRequest options)) session.world).filter fun entry =>
        refuses entry.2).map fun entry => entry.1.path := by
  induction files generalizing session calls log with
  | nil =>
    refine ⟨?_, rfl⟩
    rw [List.map_nil, List.append_nil, answersOf, List.append_nil]
    exact solo
  | cons file rest ih =>
    have fresh := (List.pairwise_append.mp apart).2.2
    have blank := solo.blank file (List.pairwise_append.mp apart).1 fun request inside =>
      fresh request inside _ List.mem_cons_self
    obtain ⟨behind, without, engine, world⟩ := solo.getUnit (fileRequest options file) blank
    have apart_then : (calls ++ [fileRequest options file] ++ rest.map (fileRequest options)).Pairwise
        fun left right => (left.path == right.path) = false := by simpa using apart
    obtain ⟨ended, failed⟩ := ih behind apart_then
    rw [engine, world] at ended failed
    have both : CommandLine.warmFiles options (file :: rest) session =
        (if (session.getUnit (fileRequest options file)).1.isNone then
          file :: (CommandLine.warmFiles options rest (session.getUnit (fileRequest options file)).2).1
        else (CommandLine.warmFiles options rest (session.getUnit (fileRequest options file)).2).1,
        (CommandLine.warmFiles options rest (session.getUnit (fileRequest options file)).2).2) := rfl
    rw [both, List.map_cons, answersOf]
    refine ⟨by simpa using ended, ?_⟩
    rw [without, failed, List.filter_cons]
    split <;> rfl

end Commands

theorem session_of_start {configuration : Configuration} {world : World} {session : CommandLine.Session}
    (started : CommandLine.Session.start configuration world = .ok session) :
    session.store = .empty configuration.parser.flags configuration.cache.queueLength.toNat ∧
      session.world = world := by
  unfold CommandLine.Session.start at started
  cases selected : Engine.select world configuration.parser with
  | error error =>
    rw [selected] at started
    cases started
  | ok engine =>
    cases checked : configuration.check with
    | error error =>
      rw [selected, checked] at started
      cases started
    | ok =>
      rw [selected, checked] at started
      cases started
      exact ⟨rfl, rfl⟩

/-- The command as a client alone runs it is a run that is over, and prints what belongs to it. -/
theorem warmRun_of_session {configuration : Configuration} {world : World} {session : CommandLine.Session}
    (started : CommandLine.Session.start configuration world = .ok session) (directory : Path)
    (extensions options : List String) {files : List Path}
    (found : matching extensions (world.disk.filesUnder directory) = files)
    (distinct : files.Pairwise fun left right => (left == right) = false) :
    ∃ (history : List (Moment Artifact Empty)) (system : System Artifact Empty),
      WarmRun options files configuration.parser.flags configuration.cache.queueLength.toNat [.client] history system ∧
      IsOver files history system ∧
      parses history = answersOf session.engine (files.map (fileRequest options)) world ∧
      (CommandLine.warm session directory extensions options).1.output =
        warmOutput directory files (reported history options files) system.store.stats := by
  obtain ⟨store, same_world⟩ := session_of_start started
  have solo : Solo configuration.parser.flags configuration.cache.queueLength.toNat [] [] session.store [] := by
    rw [store]
    exact solo_start _ _
  obtain ⟨behind, failed⟩ := solo.warmFiles options files (List.pairwise_map.mpr distinct)
  rw [same_world] at behind failed
  obtain ⟨history, clock, run, only, all, log⟩ := behind.reached
  have warms : WarmRun options files configuration.parser.flags configuration.cache.queueLength.toNat [.client] history
      (alone (CommandLine.warmFiles options files session).2.store [] clock) :=
    ⟨⟨only, by rw [all]; exact List.Subperm.refl _⟩, run, by simp⟩
  have ended : IsOver files history (alone (CommandLine.warmFiles options files session).2.store [] clock) :=
    ⟨rfl, by simp [all]⟩
  refine ⟨history, _, warms, ended, log, ?_⟩
  rw [(warms.warmed distinct ended).reported, log, List.nil_append,
    ← paths_refused (map_answersOf session.engine _ world) (nodup_of_apart distinct), ← failed]
  have files_are : CommandLine.matchingFiles session.world.disk directory extensions = files := by
    rw [same_world]
    exact found
  rw [CommandLine.warm, files_are]
  rfl

def unitCallsOnly (history : List (Moment α κ)) : Bool :=
  ((started history).all fun pair =>
    match pair.2 with
    | .operation operation => (Task.operation operation).call?.isSome
    | _ => true) && (allActs history).all fun act => !act.parsePanicked

theorem unitCalls_of_only {history : List (Moment α κ)} (only : unitCallsOnly history = true) : UnitCalls history := by
  obtain ⟨calls, calm⟩ := Bool.and_eq_true_iff.mp only
  refine ⟨fun number operation inside => ?_, fun act inside panic => ?_⟩
  · have called := List.all_eq_true.mp calls _ inside
    cases operation with
    | getUnit request => exact ⟨request, rfl⟩
    | _ => cases called
  · have quiet := List.all_eq_true.mp calm act inside
    rw [Act.parsePanicked, panic] at quiet
    cases quiet

def mixedDirectory : World where
  disk := ⟨[(["d", "a.c"], .file (.text "int a;")), (["d", "b.c"], .file (.bytes [255])),
    (["d", "c.txt"], .file (.text ""))]⟩

/-- Two clients call for a file each, and do their acts in turn; one of the files cannot be built. -/
def warmsTwo : List (Move Unit Unit) :=
  [.thread 0 (.call (.getUnit ⟨⟨"d/a.c"⟩, [], none⟩)), .thread 1 (.call (.getUnit ⟨⟨"d/b.c"⟩, [], none⟩)),
    .thread 1 .proceed, .thread 0 .proceed, .thread 0 .proceed, .thread 1 .proceed,
    .thread 1 (.parsed (.error .unsavedFile)), .thread 0 (.parsed (.ok ())), .thread 0 .proceed, .thread 1 .proceed,
    .thread 1 .proceed, .thread 0 .proceed]

def mixedFiles : List Path := [⟨"d/a.c"⟩, ⟨"d/b.c"⟩, ⟨"d/c.txt"⟩]

theorem filesUnder_mixedDirectory : mixedDirectory.disk.filesUnder ⟨"d"⟩ = mixedFiles := by
  have clean : "d".any (· == '\x00') = false := String.contains_bool_eq
  have open_end : "d".endsWith "/" = false :=
    String.Slice.endsWith_string_eq_false_iff.mpr (by simpa using (by decide : ¬['/'] <:+ ['d']))
  have parts : Path.parts ⟨"d"⟩ = ["d"] := rfl
  have located : mixedDirectory.disk.locate ⟨"d"⟩ = .ok (["d"], .directory) := by
    simp [Disk.locate, clean, parts, Disk.follow, Disk.at?, isUnder, mixedDirectory]
  have under : mixedDirectory.disk.entries.filterMap (Disk.pathUnder ⟨"d"⟩ ["d"]) = mixedFiles := by
    simp [mixedDirectory, mixedFiles, Disk.pathUnder, Path.join, isUnder, open_end]
  simp only [Disk.filesUnder, located, under]
  exact List.mergeSort_of_pairwise (by decide)

end UnitCache.Interleaving
