import UnitCache.Path
import UnitCache.Text.Quoted

namespace UnitCache

/-- What is asked for: a file built with options, in their order, which a script may have given. -/
structure Request where
  path : Path
  options : List String
  script : Option String := none
  deriving DecidableEq, Inhabited, Repr

namespace Request

/-- Whether what was built for one request serves another one for the same file. -/
def serves (built wanted : Request) : Bool := built.options == wanted.options && built.script == wanted.script

def same (left right : Request) : Bool := left.path == right.path && left.serves right

def optionText : Option String → String
  | none => "None"
  | some text => "Some(" ++ Text.quoted text ++ ")"

def fieldsText (request : Request) : String :=
  "path: " ++ Text.quotedPath request.path.text
    ++ ", options: " ++ Text.bracketed (request.options.map Text.quoted)
    ++ ", options_script: " ++ optionText request.script

end Request

/-- A unit in the cache. Its number tells it from all others; what it was built for never changes. -/
structure Handle where
  number : Nat
  request : Request
  deriving DecidableEq, Inhabited, Repr

def Handle.text (handle : Handle) (locked : Bool) : String :=
  "UnitHandle \x7b " ++ handle.request.fieldsText ++ ", locked: " ++ (if locked then "true" else "false") ++ " \x7d"

inductive JobKind where
  | parse
  /-- Build the unit anew where it is, if it is there as asked for. -/
  | reparse
  deriving DecidableEq, Inhabited, Repr

def JobKind.name : JobKind → String
  | .parse => "Parse"
  | .reparse => "Reparse"

structure Job (κ : Type) where
  request : Request
  kind : JobKind := .parse
  callback : Option κ := none
  deriving DecidableEq, Inhabited, Repr

def Job.text {κ : Type} (job : Job κ) : String :=
  "WorkItem \x7b request: UnitRequest \x7b " ++ job.request.fieldsText ++ " \x7d, kind: " ++ job.kind.name
    ++ ", on_done: " ++ (if job.callback.isSome then "true" else "false") ++ " \x7d"

end UnitCache
