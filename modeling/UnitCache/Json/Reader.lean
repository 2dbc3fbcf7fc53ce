import UnitCache.Json.Value
import UnitCache.Text.CharTable
/-!
Reading JSON. The whole text must be one value; what a string stands for is found out, but a string that stands for
no text is no reason to refuse the text it is in.
-/
namespace UnitCache.Json

inductive StringUnit where
  | char (c : Char)
  | number (value : Nat)
  deriving Inhabited

def isSpace (c : Char) : Bool := c == ' ' || c == '\n' || c == '\t' || c == '\r'

def skipSpace (chars : List Char) : List Char := chars.dropWhile isSpace

def hexNumber? (a b c d : Char) : Option Nat := do
  let a ← Text.hexValue? a
  let b ← Text.hexValue? b
  let c ← Text.hexValue? c
  let d ← Text.hexValue? d
  return ((a * 16 + b) * 16 + c) * 16 + d

def shortEscape? (c : Char) : Option Char :=
  if c == '"' || c == '\\' || c == '/' then some c
  else if c == 'b' then some '\x08'
  else if c == 'f' then some '\x0c'
  else if c == 'n' then some '\n'
  else if c == 'r' then some '\r'
  else if c == 't' then some '\t'
  else none

/-- Reads a string behind its opening quote; `read` are its units so far, the last one first. -/
def readUnits (read : List StringUnit) : List Char → Option (List StringUnit × List Char)
  | [] => none
  | '\\' :: 'u' :: a :: b :: c :: d :: rest =>
    match hexNumber? a b c d with
    | some value => readUnits (.number value :: read) rest
    | none => none
  | '\\' :: c :: rest =>
    match shortEscape? c with
    | some c => readUnits (.char c :: read) rest
    | none => none
  | c :: rest =>
    if c == '"' then some (read.reverse, rest)
    else if c == '\\' || c.toNat < 0x20 then none
    else readUnits (.char c :: read) rest

/-- Whether a number is the first of a pair that stands for one character. -/
def isHighHalf (value : Nat) : Bool := 0xD800 ≤ value && value ≤ 0xDBFF

/-- Whether a number is the second of a pair that stands for one character. -/
def isLowHalf (value : Nat) : Bool := 0xDC00 ≤ value && value ≤ 0xDFFF

def joinHalves (high low : Nat) : Char := Char.ofNat (0x10000 + (high - 0xD800) * 0x400 + (low - 0xDC00))

/-- The characters that units stand for; none if half of a pair stands alone. -/
def charsOf? : List StringUnit → Option (List Char)
  | [] => some []
  | .char c :: rest => (charsOf? rest).map (c :: ·)
  | .number high :: .number low :: rest =>
    if isHighHalf high then
      if isLowHalf low then (charsOf? rest).map (joinHalves high low :: ·) else none
    else if isLowHalf high then none
    else (charsOf? (.number low :: rest)).map (Char.ofNat high :: ·)
  | .number value :: rest =>
    if isHighHalf value || isLowHalf value then none else (charsOf? rest).map (Char.ofNat value :: ·)

def readString (chars : List Char) : Option (Option String × List Char) :=
  (readUnits [] chars).map fun (units, rest) => ((charsOf? units).map String.ofList, rest)

def isDigit (c : Char) : Bool := '0' ≤ c && c ≤ '9'

def digitsValue (digits : List Char) : Nat := digits.foldl (fun value c => value * 10 + (c.toNat - '0'.toNat)) 0

def readWhole (chars : List Char) : Option (Nat × List Char) :=
  match chars with
  | [] => none
  | c :: rest =>
    if c == '0' then some (0, rest)
    else if isDigit c then some (digitsValue (chars.takeWhile isDigit), chars.dropWhile isDigit)
    else none

def readDigits (chars : List Char) : Option (List Char) :=
  if (chars.takeWhile isDigit).isEmpty then none else some (chars.dropWhile isDigit)

/-- Reads what may stand between a point and an exponent; tells whether there is anything. -/
def readFraction : List Char → Option (Bool × List Char)
  | '.' :: rest => (readDigits rest).map fun rest => (true, rest)
  | chars => some (false, chars)

def readExponent : List Char → Option (Bool × List Char)
  | [] => some (false, [])
  | c :: rest =>
    if c == 'e' || c == 'E' then
      let digits :=
        match rest with
        | '+' :: digits => digits
        | '-' :: digits => digits
        | digits => digits
      (readDigits digits).map fun rest => (true, rest)
    else some (false, c :: rest)

def readUnsigned (chars : List Char) : Option (Json × List Char) := do
  let (value, rest) ← readWhole chars
  let (hasFraction, rest) ← readFraction rest
  let (hasExponent, rest) ← readExponent rest
  return (if hasFraction || hasExponent then .otherNumber else .natural value, rest)

def readNumber : List Char → Option (Json × List Char)
  | '-' :: rest => (readUnsigned rest).map fun (_, rest) => (.otherNumber, rest)
  | chars => readUnsigned chars

mutual

def readValue : Nat → List Char → Option (Json × List Char)
  | 0, _ => none
  | fuel + 1, chars =>
    match skipSpace chars with
    | 'n' :: 'u' :: 'l' :: 'l' :: rest => some (.null, rest)
    | 't' :: 'r' :: 'u' :: 'e' :: rest => some (.bool true, rest)
    | 'f' :: 'a' :: 'l' :: 's' :: 'e' :: rest => some (.bool false, rest)
    | '"' :: rest => (readString rest).map fun (text, rest) => (.string text, rest)
    | '[' :: rest =>
      match skipSpace rest with
      | ']' :: rest => some (.array [], rest)
      | rest => (readItems fuel [] rest).map fun (items, rest) => (.array items, rest)
    | '\x7b' :: rest =>
      match skipSpace rest with
      | '\x7d' :: rest => some (.object [], rest)
      | rest => (readMembers fuel [] rest).map fun (members, rest) => (.object members, rest)
    | chars => readNumber chars

/-- Reads the items of an array to its end; `read` are those so far, the last one first. -/
def readItems : Nat → List Json → List Char → Option (List Json × List Char)
  | 0, _, _ => none
  | fuel + 1, read, chars =>
    match readValue fuel chars with
    | none => none
    | some (item, rest) =>
      match skipSpace rest with
      | ',' :: rest => readItems fuel (item :: read) rest
      | ']' :: rest => some ((item :: read).reverse, rest)
      | _ => none

/-- Reads the members of an object to its end; `read` are those so far, the last one first. -/
def readMembers :
    Nat → List (Option String × Json) → List Char → Option (List (Option String × Json) × List Char)
  | 0, _, _ => none
  | fuel + 1, read, chars =>
    match skipSpace chars with
    | '"' :: rest =>
      match readString rest with
      | none => none
      | some (name, rest) =>
        match skipSpace rest with
        | ':' :: rest =>
          match readValue fuel rest with
          | none => none
          | some (value, rest) =>
            match skipSpace rest with
            | ',' :: rest => readMembers fuel ((name, value) :: read) rest
            | '\x7d' :: rest => some (((name, value) :: read).reverse, rest)
            | _ => none
        | _ => none
    | _ => none

end

def parse? (text : String) : Option Json :=
  match readValue (text.length + 1) text.toList with
  | some (value, rest) => if (skipSpace rest).isEmpty then some value else none
  | none => none

end UnitCache.Json
