import UnitCache.Codec.Query
import UnitCache.Diagnostic
import UnitCache.ParseFlags

namespace UnitCache

namespace ParseFlags

def toJson (flags : ParseFlags) : Json := .ofString flags.text

def ofJson? (value : Json) : Option ParseFlags := value.text?.bind ofText?

end ParseFlags

namespace Severity

def all : List Severity := [.note, .warning, .error, .fatal]

def toJson (severity : Severity) : Json := .ofString severity.name

def ofJson? (value : Json) : Option Severity := value.name?.bind fun name => all.find? (·.name == name)

end Severity

namespace Diagnostic

def toJson (diagnostic : Diagnostic) : Json :=
  .ofMembers [("severity", diagnostic.severity.toJson),
    ("location", .ofOption Location.toJson diagnostic.location), ("message", .ofString diagnostic.message)]

def ofJson? (value : Json) : Option Diagnostic := do
  match ← value.fields? ["severity", "location", "message"] with
  | [severity, location, message] =>
    some ⟨← severity.required Severity.ofJson?, ← location.optional Location.ofJson?,
      ← message.required Json.text?⟩
  | _ => none

end Diagnostic

end UnitCache
