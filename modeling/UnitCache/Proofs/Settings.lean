import UnitCache.Codec.Configuration
import UnitCache.Proofs.Records
import UnitCache.Proofs.Spellings
/-!
Settings in files. A document lays what it says over the defaults: sections and fields may be left out, in any order and
among members that mean nothing. What comes of that is judged by the rules for settings, in their order.
-/
namespace UnitCache

open Json

@[simp] theorem EngineKind.ofJson?_toJson (kind : EngineKind) : ofJson? kind.toJson = some kind := by
  cases kind <;> rfl

namespace Configuration

section Gaps

/-- What a document leaves out, by name: sections, and fields of the sections that it has. -/
structure Gaps where
  sections : String → Bool
  cache : String → Bool
  parser : String → Bool

def Gaps.none : Gaps := ⟨fun _ => false, fun _ => false, fun _ => false⟩

def Gaps.fill (gaps : Gaps) (configuration : Configuration) : Configuration :=
  let default : Configuration := {}
  { cache :=
      if gaps.sections "cache" then default.cache
      else
        { queueLength := if gaps.cache "queue_len" then default.cache.queueLength else configuration.cache.queueLength
          workers := if gaps.cache "workers" then default.cache.workers else configuration.cache.workers
          refreshInterval :=
            if gaps.cache "refresh_interval_ms" then default.cache.refreshInterval
            else configuration.cache.refreshInterval }
    parser :=
      if gaps.sections "parser" then default.parser
      else
        { engine := if gaps.parser "engine" then default.parser.engine else configuration.parser.engine
          clangPath := if gaps.parser "clang_path" then default.parser.clangPath else configuration.parser.clangPath
          precompiledPreamble :=
            if gaps.parser "precompiled_preamble" then default.parser.precompiledPreamble
            else configuration.parser.precompiledPreamble
          cacheCompletionResults :=
            if gaps.parser "cache_completion_results" then default.parser.cacheCompletionResults
            else configuration.parser.cacheCompletionResults } }

/-- Documents of settings with gaps: what is not left out stands in the document, in any order and among members whose
names are unknown. -/
inductive Documents (configuration : Configuration) (gaps : Gaps) : Json → Prop where
  | object {cache parser members : List (String × Json)}
      (hasCache : Lists configuration.cache.members gaps.cache cache)
      (hasParser : Lists configuration.parser.members gaps.parser parser)
      (hasSections : Lists [("cache", .ofMembers cache), ("parser", .ofMembers parser)] gaps.sections members) :
      Documents configuration gaps (.ofMembers members)

variable {configuration : Configuration} {gaps : Gaps} {document : Json}

theorem orDefault_given {α : Type} {decode : Json → Option α} {value : α} {name : String} {written : Json}
    (reads : decode written = some value) (omits : String → Bool) (default : α) :
    (given omits (name, written)).orDefault default decode = some (if omits name then default else value) := by
  cases out : omits name with
  | true => simp [given, out, Field.orDefault]
  | false => simp [given, out, Field.orDefault, reads]

theorem read_cacheSettings {settings : CacheSettings} {members : List (String × Json)} {omits : String → Bool}
    (lists : Lists settings.members omits members) :
    CacheSettings.ofJson? (.ofMembers members) = some
      { queueLength := if omits "queue_len" then 10 else settings.queueLength
        workers := if omits "workers" then 1 else settings.workers
        refreshInterval := if omits "refresh_interval_ms" then none else settings.refreshInterval } := by
  have fields := fields?_of_lists lists (rfl : _ = ["queue_len", "workers", "refresh_interval_ms"]) (by decide)
  have interval := orNull?_ofOption longWord?_ofLongWord rfl settings.refreshInterval
  simp [CacheSettings.ofJson?, fields, CacheSettings.members, orDefault_given (longWord?_ofLongWord _),
    orDefault_given interval]

theorem read_parserSettings {settings : ParserSettings} {members : List (String × Json)} {omits : String → Bool}
    (lists : Lists settings.members omits members) :
    ParserSettings.ofJson? (.ofMembers members) = some
      { engine := if omits "engine" then .treeSitter else settings.engine
        clangPath := if omits "clang_path" then none else settings.clangPath
        precompiledPreamble := if omits "precompiled_preamble" then false else settings.precompiledPreamble
        cacheCompletionResults :=
          if omits "cache_completion_results" then false else settings.cacheCompletionResults } := by
  have fields := fields?_of_lists lists
    (rfl : _ = ["engine", "clang_path", "precompiled_preamble", "cache_completion_results"]) (by decide)
  have path := orNull?_ofOption path?_toJson rfl settings.clangPath
  have truth (value : Bool) : bool? (.bool value) = some value := rfl
  simp [ParserSettings.ofJson?, fields, ParserSettings.members, orDefault_given (EngineKind.ofJson?_toJson _),
    orDefault_given path, orDefault_given (truth _)]

/-- A document is read as the settings with the defaults in the gaps. -/
theorem ofJson?_document (documents : Documents configuration gaps document) :
    ofJson? document = some (gaps.fill configuration) := by
  cases documents with
  | object hasCache hasParser hasSections =>
    have fields := fields?_of_lists hasSections (rfl : _ = ["cache", "parser"]) (by decide)
    simp [ofJson?, fields, orDefault_given (read_cacheSettings hasCache),
      orDefault_given (read_parserSettings hasParser), Gaps.fill]

theorem documents_toJson (configuration : Configuration) : Documents configuration .none configuration.toJson :=
  .object (lists_self configuration.cache.members) (lists_self configuration.parser.members) (lists_self _)

theorem fill_none (configuration : Configuration) : Gaps.none.fill configuration = configuration := rfl

end Gaps

section Rules

def Refuses (rule : String) (result : Except Error Configuration) : Prop :=
  ∃ error, result = .error error ∧ error.kind = .configuration ∧ error.message = "Configuration error: " ++ rule

/-- What comes of settings: they are taken if they obey all rules, and else the first rule that they break is named. -/
structure Judged (configuration : Configuration) (result : Except Error Configuration) : Prop where
  taken : 1 ≤ configuration.cache.queueLength → 1 ≤ configuration.cache.workers →
    configuration.cache.refreshInterval ≠ some 0 → result = .ok configuration
  queue : ¬1 ≤ configuration.cache.queueLength → Refuses "cache.queue_len must be at least 1" result
  workers : 1 ≤ configuration.cache.queueLength → ¬1 ≤ configuration.cache.workers →
    Refuses "cache.workers must be at least 1" result
  interval : 1 ≤ configuration.cache.queueLength → 1 ≤ configuration.cache.workers →
    configuration.cache.refreshInterval = some 0 → Refuses "cache.refresh_interval_ms must be positive" result

theorem judged_check (configuration : Configuration) :
    Judged configuration (configuration.check.map fun _ => configuration) := by
  have count (value : UInt64) : 1 ≤ value ↔ ¬(value == 0) = true := by
    rw [beq_iff_eq, UInt64.le_iff_toNat_le, ← UInt64.toNat_inj]
    exact Nat.one_le_iff_ne_zero
  constructor
  · intro queue workers interval
    rw [check, if_neg ((count _).mp queue), if_neg ((count _).mp workers), if_neg (by simpa using interval)]
    rfl
  · intro queue
    rw [count, not_not] at queue
    rw [check, if_pos queue]
    exact ⟨.emptyQueue, rfl, rfl, rfl⟩
  · intro queue workers
    rw [count, not_not] at workers
    rw [check, if_neg ((count _).mp queue), if_pos workers]
    exact ⟨.noWorkers, rfl, rfl, rfl⟩
  · intro queue workers interval
    rw [check, if_neg ((count _).mp queue), if_neg ((count _).mp workers), if_pos (by simpa using interval)]
    exact ⟨.zeroInterval, rfl, rfl, rfl⟩

end Rules

section Files

variable {configuration : Configuration} {gaps : Gaps} {document : Json} {text : String} {disk : Disk} {path : Path}

theorem judged_load (documents : Documents configuration gaps document) (spelled : IsText document text)
    (there : disk.read path = .ok text) : Judged (gaps.fill configuration) (load disk path) := by
  have read : (parse? text).bind ofJson? = some (gaps.fill configuration) := by
    rw [parse?_of_isText spelled]
    exact ofJson?_document documents
  simp only [load, there, ofText, read]
  exact judged_check (gaps.fill configuration)

theorem obeys_of_check (passes : configuration.check = .ok ()) : 1 ≤ configuration.cache.queueLength ∧
    1 ≤ configuration.cache.workers ∧ configuration.cache.refreshInterval ≠ some 0 := by
  have judged := judged_check configuration
  rw [passes] at judged
  have accepted {rule : String} : ¬Refuses rule (.ok configuration) := by
    rintro ⟨_, ⟨⟩, _⟩
  by_cases queue : 1 ≤ configuration.cache.queueLength
  · by_cases workers : 1 ≤ configuration.cache.workers
    · exact ⟨queue, workers, fun zero => accepted (judged.interval queue workers zero)⟩
    · exact absurd (judged.workers queue workers) accepted
  · exact absurd (judged.queue queue) accepted

/-- A file lays what it says about settings over the defaults, and what comes of that is judged. So settings that pass
the check survive being written and loaded. -/
theorem files_overlay_defaults (configuration : Configuration) :
    (∀ gaps document text disk path, Documents configuration gaps document → IsText document text →
      disk.read path = .ok text → Judged (gaps.fill configuration) (load disk path)) ∧
    (configuration.check = .ok () → ∀ (disk : Disk) path,
      disk.read path = .ok configuration.toJson.compact ∨ disk.read path = .ok configuration.toJson.pretty →
        load disk path = .ok configuration) := by
  refine ⟨fun gaps document text disk path => judged_load, fun passes disk path there => ?_⟩
  obtain ⟨queue, workers, interval⟩ := obeys_of_check passes
  have written := documents_toJson configuration
  have loaded {text : String} (spelled : IsText configuration.toJson text) (there : disk.read path = .ok text) :
      load disk path = .ok configuration := by
    have judged := judged_load written spelled there
    rw [fill_none] at judged
    exact judged.taken queue workers interval
  rcases there with there | there
  · exact loaded (isText_compact _) there
  · exact loaded (isText_pretty _) there

theorem some_file_overlays_defaults :
    let cache : List (String × Json) := [("refresh_interval_ms", .natural 100), ("queue_len", .natural 5)]
    let parser : List (String × Json) := [("comment", .array [.null]), ("precompiled_preamble", .bool true)]
    let document := Json.ofMembers [("parser", .ofMembers parser), ("engine", .null), ("cache", .ofMembers cache)]
    load ⟨[(["a.json"], .file (.text document.compact))]⟩ ⟨"a.json"⟩ =
      .ok ⟨{ queueLength := 5, refreshInterval := some 100 }, { precompiledPreamble := true }⟩ := by
  intro cache parser document
  let configuration : Configuration :=
    ⟨{ queueLength := 5, workers := 0, refreshInterval := some 100 },
      { engine := .clang, precompiledPreamble := true }⟩
  let gaps : Gaps :=
    ⟨fun _ => false, fun name => name == "workers", fun name => name != "precompiled_preamble"⟩
  have hasCache : Lists configuration.cache.members gaps.cache cache := ⟨[], by simp, .swap _ _ []⟩
  have hasParser : Lists configuration.parser.members gaps.parser parser :=
    ⟨[("comment", .array [.null])], by decide, .swap _ _ []⟩
  have hasSections : Lists [("cache", .ofMembers cache), ("parser", .ofMembers parser)] gaps.sections
      [("parser", .ofMembers parser), ("engine", .null), ("cache", .ofMembers cache)] :=
    ⟨[("engine", .null)], by simp, (List.Perm.cons _ (.swap _ _ [])).trans (.swap _ _ _)⟩
  have documents : Documents configuration gaps document := .object hasCache hasParser hasSections
  have there (text : String) : Disk.read ⟨[(["a.json"], .file (.text text))]⟩ ⟨"a.json"⟩ = .ok text := by
    have clean : "a.json".any (· == '\x00') = false := String.contains_bool_eq
    have parts : Path.parts ⟨"a.json"⟩ = ["a.json"] := rfl
    simp [Disk.read, Disk.locate, clean, parts, Disk.follow, Disk.at?, isUnder, Content.text?]
  exact ((files_overlay_defaults configuration).1 gaps document _ _ _ documents (isText_compact _) (there _)).taken
    (by decide) (by decide) (by decide)

end Files

end Configuration

end UnitCache
