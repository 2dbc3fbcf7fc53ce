import UnitCache.Location

namespace UnitCache

inductive Severity where
  | note
  | warning
  | error
  | fatal
  deriving DecidableEq, Inhabited, Repr

def Severity.name : Severity → String
  | .note => "Note"
  | .warning => "Warning"
  | .error => "Error"
  | .fatal => "Fatal"

structure Diagnostic where
  severity : Severity
  /-- None where the remark is about no place in a file. -/
  location : Option Location
  message : String
  deriving DecidableEq, Inhabited, Repr

def Diagnostic.isFatal (diagnostic : Diagnostic) : Bool := diagnostic.severity == .fatal

end UnitCache
