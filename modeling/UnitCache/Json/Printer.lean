import UnitCache.Json.Value

namespace UnitCache.Json

def hexDigit (value : Nat) : Char := (Nat.digitChar value)

def escape (c : Char) : List Char :=
  if c == '"' then ['\\', '"']
  else if c == '\\' then ['\\', '\\']
  else if c == '\n' then ['\\', 'n']
  else if c == '\r' then ['\\', 'r']
  else if c == '\t' then ['\\', 't']
  else if c == '\x08' then ['\\', 'b']
  else if c == '\x0c' then ['\\', 'f']
  else if c.toNat < 0x20 then ['\\', 'u', '0', '0', hexDigit (c.toNat / 16), hexDigit (c.toNat % 16)]
  else [c]

def writeString (text : String) : List Char := '"' :: text.toList.flatMap escape ++ ['"']

/-- A string; one that is no text is written as a character that cannot be read back alone. -/
def writeText : Option String → List Char
  | some text => writeString text
  | none => "\"\\ud800\"".toList

mutual

def write : Json → List Char
  | .null => "null".toList
  | .bool value => (if value then "true" else "false").toList
  | .natural value => (toString value).toList
  | .otherNumber => "-0".toList
  | .string text => writeText text
  | .array items => '[' :: writeItems items
  | .object members => '\x7b' :: writeMembers members

def writeItems : List Json → List Char
  | [] => [']']
  | [item] => write item ++ [']']
  | item :: next :: rest => write item ++ ',' :: writeItems (next :: rest)

def writeMembers : List (Option String × Json) → List Char
  | [] => ['\x7d']
  | [(name, value)] => writeText name ++ ':' :: write value ++ ['\x7d']
  | (name, value) :: next :: rest =>
    writeText name ++ ':' :: write value ++ ',' :: writeMembers (next :: rest)

end

def compact (value : Json) : String := String.ofList (write value)

def newLine (depth : Nat) : List Char := '\n' :: List.replicate (2 * depth) ' '

mutual

def writeAt (depth : Nat) : Json → List Char
  | .array [] => ['[', ']']
  | .array (item :: rest) => '[' :: writeItemsAt (depth + 1) (item :: rest) ++ newLine depth ++ [']']
  | .object [] => ['\x7b', '\x7d']
  | .object (member :: rest) =>
    '\x7b' :: writeMembersAt (depth + 1) (member :: rest) ++ newLine depth ++ ['\x7d']
  | value => write value

def writeItemsAt (depth : Nat) : List Json → List Char
  | [] => []
  | [item] => newLine depth ++ writeAt depth item
  | item :: next :: rest => newLine depth ++ writeAt depth item ++ ',' :: writeItemsAt depth (next :: rest)

def writeMembersAt (depth : Nat) : List (Option String × Json) → List Char
  | [] => []
  | [(name, value)] => newLine depth ++ writeText name ++ [':', ' '] ++ writeAt depth value
  | (name, value) :: next :: rest =>
    newLine depth ++ writeText name ++ [':', ' '] ++ writeAt depth value
      ++ ',' :: writeMembersAt depth (next :: rest)

end

def pretty (value : Json) : String := String.ofList (writeAt 0 value)

end UnitCache.Json
