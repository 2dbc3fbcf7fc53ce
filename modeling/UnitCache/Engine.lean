import UnitCache.C.TreeUnit
import UnitCache.Cache.Activity
import UnitCache.Clang.ClangUnit
import UnitCache.Configuration

namespace UnitCache

inductive Engine where
  | treeSitter
  | clang (compiler : Path)
  deriving DecidableEq, Inhabited, Repr

inductive Artifact where
  | tree (unit : C.TreeUnit)
  | clang (unit : ClangUnit)
  deriving DecidableEq, Inhabited, Repr

namespace Engine

def select (world : World) (settings : ParserSettings) : Except Error Engine :=
  match settings.engine with
  | .treeSitter => .ok .treeSitter
  | .clang =>
    match settings.clangPath with
    | some compiler => .ok (.clang compiler)
    | none => (Clang.find world).map .clang

def name : Engine → String
  | .treeSitter => EngineKind.treeSitter.name
  | .clang _ => EngineKind.clang.name

def isAvailable (world : World) : Engine → Bool
  | .treeSitter => true
  | .clang compiler => Clang.isAvailable world compiler

def parse (engine : Engine) (world : World) (request : Request) (parser : C.Parser := C.parser) :
    Answer Artifact × World :=
  match engine with
  | .treeSitter =>
    match C.TreeUnit.build world.disk request.path request.options parser with
    | .ok unit => (.ok (.tree unit), world)
    | .error error => (.error error, world)
  | .clang compiler =>
    match ClangUnit.build compiler request.path request.options world with
    | (.ok unit, world) => (.ok (.clang unit), world)
    | (.error error, world) => (.error error, world)

end Engine

namespace Artifact

def reparse (artifact : Artifact) (world : World) (parser : C.Parser := C.parser) : Answer Artifact × World :=
  match artifact with
  | .tree unit =>
    match unit.reparse world.disk parser with
    | .ok unit => (.ok (.tree unit), world)
    | .error error => (.error error, world)
  | .clang unit =>
    match unit.reparse world with
    | (.ok unit, world) => (.ok (.clang unit), world)
    | (.error error, world) => (.error error, world)

def complete (artifact : Artifact) (path : Path) (line column : UInt32) (world : World) :
    Answer (List Candidate) × List Warning × World :=
  match artifact with
  | .tree unit =>
    match unit.complete path line column with
    | .candidates candidates => (.ok candidates, [], world)
    | .failed error => (.error error, [], world)
    | .panicked => (.panic, [], world)
  | .clang unit =>
    match unit.complete path line column world with
    | (.ok candidates, warnings, world) => (.ok candidates, warnings, world)
    | (.error error, warnings, world) => (.error error, warnings, world)

def diagnostics : Artifact → List Diagnostic
  | .tree unit => unit.contents.diagnostics
  | .clang unit => unit.diagnostics

end Artifact

end UnitCache
