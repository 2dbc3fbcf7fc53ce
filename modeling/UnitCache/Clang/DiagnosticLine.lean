import UnitCache.Diagnostic
import UnitCache.Text.Ends
import UnitCache.Text.Lines
/-!
What the compiler complains about, read off its error output. A complaint is a line of a file, a line, a column, how
grave it is, and a message, with colons between; a complaint about the call itself has no place. All other lines are
passed over.
-/
namespace UnitCache.Clang

def severityMarks : List (String × Severity) :=
  [(": note: ", .note), (": warning: ", .warning), (": error: ", .error), (": fatal error: ", .fatal)]

/-- The number of thirty-two bits that ASCII digits are; zero for a greater one and for other digits. -/
def wordOf (digits : List Char) : UInt32 :=
  if digits.all Char.isDigit then
    let value := digits.foldl (fun value c => value * 10 + (c.toNat - '0'.toNat)) 0
    if value < UInt32.size then UInt32.ofNat value else 0
  else 0

def colonNumber? : List Char → Option (UInt32 × List Char)
  | ':' :: text =>
    let digits := text.takeWhile Text.isDecimal
    if digits.isEmpty then none else some (wordOf digits, text.dropWhile Text.isDecimal)
  | _ => none

def graded? (text : List Char) : Option (Severity × List Char) :=
  severityMarks.findSome? fun mark => (Text.behind? mark.1.toList text).map fun message => (mark.2, message)

structure Complaint where
  line : UInt32
  column : UInt32
  severity : Severity
  message : List Char
  deriving DecidableEq, Repr

def Complaint.read? (text : List Char) : Option Complaint := do
  let (line, text) ← colonNumber? text
  let (column, text) ← colonNumber? text
  let (severity, message) ← graded? text
  return ⟨line, column, severity, message⟩

/-- The shortest name of a file, of one character or more, that a complaint stands behind, and this complaint.
`file` is what was passed of the name, the last character first. -/
def locate? (file : List Char) : List Char → Option (List Char × Complaint)
  | [] => none
  | c :: rest =>
    match if file.isEmpty then none else Complaint.read? (c :: rest) with
    | some complaint => some (file.reverse, complaint)
    | none => locate? (c :: file) rest

def diagnostic? (line : List Char) : Option Diagnostic :=
  match locate? [] line with
  | some (file, complaint) =>
    some ⟨complaint.severity, some ⟨String.ofList file, complaint.line, complaint.column⟩,
      String.ofList complaint.message⟩
  | none =>
    (Text.behind? "clang: error: ".toList line).map fun message => ⟨.fatal, none, String.ofList message⟩

def diagnosticsOf (text : String) : List Diagnostic :=
  (Text.linesFrom [] text.toList).filterMap diagnostic?

end UnitCache.Clang
