import UnitCache.Codec.Completion
import UnitCache.Codec.Configuration
import UnitCache.CommandLine.Arguments
import UnitCache.CommandLine.Printed
import UnitCache.CommandLine.Session
import UnitCache.Json.Printer

namespace UnitCache.CommandLine

/-- The settings for a command. The engine asked for by name comes before that in the file. -/
def settings (disk : Disk) (invocation : Invocation) : Except Ending Configuration := do
  let loaded ←
    match invocation.configuration with
    | none => .ok {}
    | some path => (Configuration.load disk path).mapError (failedTo ("failed to load config " ++ path.text))
  match invocation.engine with
  | none => .ok loaded
  | some name =>
    match EngineKind.ofName name with
    | .ok engine => .ok { loaded with parser := { loaded.parser with engine } }
    | .error error => .error (failed error)

def notBuilt (file : Path) : Ending := stopped ("failed to parse " ++ file.text)

def parse (session : Session) (file : Path) (options : List String) : Ending × Session :=
  match session.getUnit { path := file, options } with
  | (none, session) => (notBuilt file, session)
  | (some handle, session) =>
    let heading := "📂 Parsed " ++ file.text ++ " with " ++ session.engine.name
    let lines :=
      match session.diagnostics handle with
      | [] => [line "   No diagnostics"]
      | diagnostics => diagnostics.map diagnosticLine
    ({ output := .text heading :: .time " in " :: line "" :: lines }, session)

def complete (session : Session) (file : Path) (lineNumber column : UInt32) (format : String)
    (options : List String) : Ending × Session :=
  match session.getUnit { path := file, options } with
  | (none, session) => (notBuilt file, session)
  | (some _, session) =>
    match session.complete (.inSaved file lineNumber column) with
    | (none, session) => (panicked, session)
    | (some (.error error), session) => (failed error, session)
    | (some (.ok result), session) =>
      if format == "json" then ({ output := [line result.toJson.pretty] }, session)
      else ({ output := completionLines result }, session)

/-- Builds the units of files; gives those that could not be built, in their order. -/
def warmFiles (options : List String) : List Path → Session → List Path × Session
  | [], session => ([], session)
  | file :: rest, session =>
    let (handle, session) := session.getUnit { path := file, options }
    let (failed, session) := warmFiles options rest session
    (if handle.isNone then file :: failed else failed, session)

def matchingFiles (disk : Disk) (directory : Path) (extensions : List String) : List Path :=
  (disk.filesUnder directory).filter fun file => file.extension?.any fun extension => extensions.contains extension

def summary (stats : CacheStats) : List Piece :=
  [line "\n📊 Summary:",
    line ("   Units cached: " ++ toString stats.units),
    line ("   Parses: " ++ toString stats.parses),
    line ("   Failures: " ++ toString stats.failures),
    .text "   Elapsed:", .time " ", line ""]

def warm (session : Session) (directory : Path) (extensions options : List String) : Ending × Session :=
  let files := matchingFiles session.world.disk directory extensions
  let (failed, session) := warmFiles options files session
  let heading := "📂 Warming " ++ toString files.length ++ " files under " ++ directory.text
  let complaints := failed.map fun file => line ("   ⚠️  " ++ file.text)
  ({ output := line heading :: complaints ++ summary session.store.stats }, session)

def Command.run (command : Command) (session : Session) : Ending × Session :=
  match command with
  | .parse file options => UnitCache.CommandLine.parse session file options
  | .complete file line column format options =>
    UnitCache.CommandLine.complete session file line column format options
  | .warm directory extensions options => UnitCache.CommandLine.warm session directory extensions options

structure Result where
  ending : Ending
  world : World
  warnings : List Warning := []
  deriving Inhabited

def Invocation.run (invocation : Invocation) (world : World) : Result :=
  match settings world.disk invocation with
  | .error ending => { ending, world }
  | .ok configuration =>
    match Session.start configuration world with
    | .error error => { ending := failedTo "failed to start the translation unit cache" error, world }
    | .ok session =>
      let (ending, session) := invocation.command.run session
      { ending, world := session.world, warnings := session.warnings }

def usage : String :=
  "Usage: tucache [-c FILE] [-e ENGINE] COMMAND\n\n"
    ++ "  parse FILE [-- OPTIONS...]\n"
    ++ "  complete FILE LINE COLUMN [-f FORMAT] [-- OPTIONS...]\n"
    ++ "  warm DIR [--ext EXT,...] [-- OPTIONS...]\n"

def Refusal.ending : Refusal → Ending
  | .help => { output := [.text ("Translation unit cache for code completion\n\n" ++ usage)] }
  | .version => { output := [line "tucache 0.1.0"] }
  | .wrong => { code := 2, complaint := usage }

def run (arguments : List String) (world : World) : Result :=
  match read arguments with
  | .error refusal => { ending := refusal.ending, world }
  | .ok invocation => invocation.run world

end UnitCache.CommandLine
