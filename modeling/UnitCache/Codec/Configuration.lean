import UnitCache.Codec.Query
import UnitCache.Configuration
import UnitCache.Disk
import UnitCache.Json.Reader

namespace UnitCache

namespace EngineKind

def toJson (kind : EngineKind) : Json := .ofString kind.name

def ofJson? (value : Json) : Option EngineKind :=
  value.name?.bind fun name => [treeSitter, clang].find? (·.name == name)

end EngineKind

namespace CacheSettings

def members (settings : CacheSettings) : List (String × Json) :=
  [("queue_len", .ofLongWord settings.queueLength), ("workers", .ofLongWord settings.workers),
    ("refresh_interval_ms", .ofOption Json.ofLongWord settings.refreshInterval)]

def toJson (settings : CacheSettings) : Json := .ofMembers settings.members

def ofJson? (value : Json) : Option CacheSettings := do
  let default : CacheSettings := {}
  match ← value.fields? ["queue_len", "workers", "refresh_interval_ms"] with
  | [queueLength, workers, refreshInterval] =>
    some ⟨← queueLength.orDefault default.queueLength Json.longWord?,
      ← workers.orDefault default.workers Json.longWord?,
      ← refreshInterval.orDefault default.refreshInterval (Json.orNull? Json.longWord?)⟩
  | _ => none

end CacheSettings

namespace ParserSettings

def members (settings : ParserSettings) : List (String × Json) :=
  [("engine", settings.engine.toJson), ("clang_path", .ofOption Path.toJson settings.clangPath),
    ("precompiled_preamble", .bool settings.precompiledPreamble),
    ("cache_completion_results", .bool settings.cacheCompletionResults)]

def toJson (settings : ParserSettings) : Json := .ofMembers settings.members

def ofJson? (value : Json) : Option ParserSettings := do
  let default : ParserSettings := {}
  match ← value.fields? ["engine", "clang_path", "precompiled_preamble", "cache_completion_results"] with
  | [engine, clangPath, preamble, results] =>
    some ⟨← engine.orDefault default.engine EngineKind.ofJson?,
      ← clangPath.orDefault default.clangPath (Json.orNull? Path.ofJson?),
      ← preamble.orDefault default.precompiledPreamble Json.bool?,
      ← results.orDefault default.cacheCompletionResults Json.bool?⟩
  | _ => none

end ParserSettings

namespace Configuration

def toJson (configuration : Configuration) : Json :=
  .ofMembers [("cache", configuration.cache.toJson), ("parser", configuration.parser.toJson)]

def ofJson? (value : Json) : Option Configuration := do
  let default : Configuration := {}
  match ← value.fields? ["cache", "parser"] with
  | [cache, parser] =>
    some ⟨← cache.orDefault default.cache CacheSettings.ofJson?,
      ← parser.orDefault default.parser ParserSettings.ofJson?⟩
  | _ => none

def ofText (text : String) : Except Error Configuration :=
  match (Json.parse? text).bind ofJson? with
  | none => .error .badJson
  | some configuration => configuration.check.map fun _ => configuration

def load (disk : Disk) (path : Path) : Except Error Configuration :=
  match disk.read path with
  | .error failure => .error (.file failure)
  | .ok text => ofText text

end Configuration

end UnitCache
