import UnitCache.Error
import UnitCache.ParseFlags

namespace UnitCache

inductive EngineKind where
  | treeSitter
  | clang
  deriving DecidableEq, Inhabited, Repr

namespace EngineKind

def name : EngineKind → String
  | treeSitter => "tree-sitter"
  | clang => "clang"

def ofName (name : String) : Except Error EngineKind :=
  if name == "tree-sitter" || name == "treesitter" then .ok treeSitter
  else if name == "clang" then .ok clang
  else .error (.unknownEngine name)

end EngineKind

structure CacheSettings where
  queueLength : UInt64 := 10
  workers : UInt64 := 1
  /-- After how many milliseconds all units are built anew; none for never. -/
  refreshInterval : Option UInt64 := none
  deriving DecidableEq, Inhabited, Repr

structure ParserSettings where
  engine : EngineKind := .treeSitter
  clangPath : Option Path := none
  precompiledPreamble : Bool := false
  cacheCompletionResults : Bool := false
  deriving DecidableEq, Inhabited, Repr

def ParserSettings.flags (settings : ParserSettings) : ParseFlags :=
  let preamble := if settings.precompiledPreamble then ParseFlags.precompiledPreamble else .empty
  let results := if settings.cacheCompletionResults then ParseFlags.cacheCompletionResults else .empty
  preamble.union results

structure Configuration where
  cache : CacheSettings := {}
  parser : ParserSettings := {}
  deriving DecidableEq, Inhabited, Repr

/-- Refuses settings that the cache cannot run with; the first thing wrong is told. -/
def Configuration.check (configuration : Configuration) : Except Error Unit :=
  if configuration.cache.queueLength == 0 then .error .emptyQueue
  else if configuration.cache.workers == 0 then .error .noWorkers
  else if configuration.cache.refreshInterval == some 0 then .error .zeroInterval
  else .ok ()

end UnitCache
