import UnitCache.Completion.Result
import UnitCache.Diagnostic

namespace UnitCache.CommandLine

inductive Piece where
  | text (text : String)
  | time (before : String)
  deriving DecidableEq, Inhabited, Repr

def Piece.render (taken : Option String) : Piece → String
  | .text words => words
  | .time before =>
    match taken with
    | some duration => before ++ duration
    | none => ""

/-- A number of units of which `digits` decimal places make one, without zeros at the end. -/
def decimalText (digits count : Nat) : String :=
  let unit := Nat.pow 10 digits
  let places := (toString (unit + count % unit)).toList.drop 1
  let shown := (places.reverse.dropWhile (· == '0')).reverse
  toString (count / unit) ++ if shown.isEmpty then "" else "." ++ String.ofList shown

def timeText (nanoseconds : Nat) : String :=
  if 1000000000 ≤ nanoseconds then decimalText 9 nanoseconds ++ "s"
  else if 1000000 ≤ nanoseconds then decimalText 6 nanoseconds ++ "ms"
  else if 1000 ≤ nanoseconds then decimalText 3 nanoseconds ++ "µs"
  else toString nanoseconds ++ "ns"

def line (text : String) : Piece := .text (text ++ "\n")

structure Ending where
  code : Nat := 0
  output : List Piece := []
  complaint : String := ""
  deriving DecidableEq, Inhabited, Repr

def Ending.text (ending : Ending) (taken : Option String) : String := String.join (ending.output.map (·.render taken))

def causes : Error → List String
  | .file failure => [failure.message]
  | .badJson => [""]
  | _ => []

/-- A cause in a report. Causes are numbered if there are more than one, and further lines of a cause are indented as
far as the first. -/
def causeText (number : Option Nat) (cause : String) : String :=
  let (first, further) :=
    match number with
    | some number => ("    " ++ toString number ++ ": ", "       ")
    | none => ("    ", "    ")
  first ++ ("\n" ++ further).intercalate (cause.splitOn "\n")

def causeTexts (found : List String) : List String :=
  match found with
  | [cause] => [causeText none cause]
  | found => found.zipIdx.map fun entry => causeText (some entry.2) entry.1

def report (headline : String) (found : List String) : String :=
  let why := if found.isEmpty then "" else "\n\nCaused by:\n" ++ "\n".intercalate (causeTexts found)
  "Error: " ++ headline ++ why ++ "\n"

def failedTo (purpose : String) (error : Error) : Ending :=
  { code := 1, complaint := report purpose (error.message :: causes error) }

def failed (error : Error) : Ending := { code := 1, complaint := report error.message (causes error) }

def stopped (words : String) : Ending := { code := 1, complaint := report words [] }

def panicked : Ending := { code := 101 }

def diagnosticLine (diagnostic : Diagnostic) : Piece :=
  let words := diagnostic.severity.name ++ ": " ++ diagnostic.message
  match diagnostic.location with
  | some location => line ("   " ++ location.text ++ ": " ++ words)
  | none => line ("   " ++ words)

def methodLine (method : Method) : Piece :=
  let returns := (method.returns.head?.map Variable.name).getD "void"
  line ("method " ++ returns ++ " " ++ method.name ++ "("
    ++ ", ".intercalate (method.parameters.map Variable.typeName) ++ ")")

def completionLines (result : CompletionResult) : List Piece :=
  if result.isEmpty then [line "No completions"]
  else result.types.map (fun type => line ("type   " ++ type.name)) ++ result.methods.map methodLine

end UnitCache.CommandLine
