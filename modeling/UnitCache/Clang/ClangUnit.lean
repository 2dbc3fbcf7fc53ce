import UnitCache.Clang.CompletionLine
import UnitCache.Clang.DiagnosticLine
import UnitCache.World

namespace UnitCache.Clang

def usualPlaces : List Path :=
  [⟨"clang"⟩, ⟨"/usr/bin/clang"⟩, ⟨"/usr/local/bin/clang"⟩, ⟨"/opt/homebrew/bin/clang"⟩,
    ⟨"/opt/homebrew/opt/llvm/bin/clang"⟩]

def isAvailable (world : World) (compiler : Path) : Bool :=
  match (world.run compiler ["--version"]).1 with
  | .ok run => run.succeeded
  | .error _ => false

def find (world : World) : Except Error Path :=
  match usualPlaces.find? (isAvailable world) with
  | some compiler => .ok compiler
  | none => .error .compilerNotFound

def version? (world : World) (compiler : Path) : Option String :=
  match (world.run compiler ["--version"]).1 with
  | .ok run => run.output.text?.bind fun text => (Text.lines text).head?
  | .error _ => none

end UnitCache.Clang

namespace UnitCache

structure ClangUnit where
  compiler : Path
  path : Path
  options : List String
  diagnostics : List Diagnostic := []
  deriving DecidableEq, Inhabited, Repr

namespace ClangUnit

def arguments (unit : ClangUnit) (extra : List String) : List String :=
  "-fsyntax-only" :: extra ++ unit.options ++ [unit.path.text]

/-- The unit after the compiler complained; it stays as it was if a complaint is fatal. -/
def withComplaints (unit : ClangUnit) (complaints : String) : Except Error ClangUnit :=
  let diagnostics := Clang.diagnosticsOf complaints
  match diagnostics.find? Diagnostic.isFatal with
  | some diagnostic => .error (.fatal diagnostic.message)
  | none => .ok { unit with diagnostics }

def reparse (unit : ClangUnit) (world : World) : Except Error ClangUnit × World :=
  if world.disk.exists? unit.path then
    match world.run unit.compiler (unit.arguments []) with
    | (.error failure, world) => (.error (.file failure), world)
    | (.ok run, world) => (unit.withComplaints run.complaints.lossyText, world)
  else (.error (.sourceMissing unit.path), world)

def build (compiler path : Path) (options : List String) (world : World) : Except Error ClangUnit × World :=
  reparse { compiler, path, options } world

/-- The arguments that ask for completions. -/
def completionArguments (path : Path) (line column : UInt32) : List String :=
  ["-Xclang", s!"-code-completion-at={path.text}:{line.toNat}:{column.toNat}"]

def candidatesOf (run : Run) : Except Error (List Candidate) × List Warning :=
  let output := run.output.lossyText
  if (Text.trimChars output.toList).isEmpty && !run.succeeded then
    (.error (.completionFailed (Text.trim run.complaints.lossyText)), [])
  else
    let (candidates, warnings) := Clang.candidatesOf output
    (.ok candidates, warnings)

/-- Asks the compiler for the candidates at a cursor, with warnings about what it prints. -/
def complete (unit : ClangUnit) (path : Path) (line column : UInt32) (world : World) :
    Except Error (List Candidate) × List Warning × World :=
  match world.run unit.compiler (unit.arguments (completionArguments path line column)) with
  | (.error failure, world) => (.error (.file failure), [], world)
  | (.ok run, world) =>
    let (result, warnings) := candidatesOf run
    (result, warnings, world)

end ClangUnit

end UnitCache
