import UnitCache.Disk
import UnitCache.Text.Ends
/-!
What lies outside the program: files, and a compiler that can be run. The compiler answers its runs one after the
other from a list, and the last answer for ever after.
-/
namespace UnitCache

structure Run where
  output : Content := .text ""
  complaints : Content := .text ""
  code : Nat := 0
  deriving DecidableEq, Inhabited, Repr

def Run.succeeded (run : Run) : Bool := run.code == 0

structure Compiler where
  answers : List Run := []
  version : Run := {}
  /-- The arguments of the runs so far; the question for its version is no run. -/
  calls : List (List String) := []
  deriving DecidableEq, Inhabited, Repr

namespace Compiler

def answer (compiler : Compiler) (number : Nat) : Run :=
  match compiler.answers[number]? with
  | some run => run
  | none => compiler.answers.getLast?.getD {}

def run (compiler : Compiler) (arguments : List String) : Run × Compiler :=
  if arguments.head? == some "--version" then (compiler.version, compiler)
  else (compiler.answer compiler.calls.length, { compiler with calls := compiler.calls ++ [arguments] })

end Compiler

structure World where
  disk : Disk := {}
  compiler : Compiler := {}
  /-- Where a program is looked for that is called by its name alone. -/
  search : List Path := []
  deriving Inhabited, Repr

namespace World

def findProgram (world : World) (program : Path) : Except FileFailure Entry :=
  if program.text.any (· == '/') then (world.disk.locate program).map Prod.snd
  else
    let found := world.search.findSome? fun directory =>
      match world.disk.locate (directory.join program.text) with
      | .ok (_, entry) => some entry
      | .error _ => none
    match found with
    | some entry => .ok entry
    | none => .error .notFound

def run (world : World) (program : Path) (arguments : List String) : Except FileFailure Run × World :=
  match world.findProgram program with
  | .error failure => (.error failure, world)
  | .ok .program =>
    let (run, compiler) := world.compiler.run arguments
    (.ok run, { world with compiler })
  | .ok _ => (.error .notPermitted, world)

def onDisk (world : World) (change : Disk → Disk) : World := { world with disk := change world.disk }

end World

end UnitCache
