import UnitCache.Text.CharTable

namespace UnitCache.Text

def hexDigits (number : Nat) : List Char := Nat.toDigits 16 number

def numberEscape (c : Char) : List Char := ['\\', 'u', '\x7b'] ++ hexDigits c.toNat ++ ['\x7d']

/-- A character as it is written between quotes; a single quote is escaped where `single` says so. -/
def escape (single : Bool) (c : Char) : List Char :=
  if c == '\x00' then ['\\', '0']
  else if c == '\t' then ['\\', 't']
  else if c == '\r' then ['\\', 'r']
  else if c == '\n' then ['\\', 'n']
  else if c == '\\' || c == '"' || (single && c == '\'') then ['\\', c]
  else if extendsGrapheme c || !isPrintable c then numberEscape c
  else [c]

def quoted (text : String) : String := String.ofList ('"' :: text.toList.flatMap (escape false) ++ ['"'])

def quotedPath (text : String) : String := String.ofList ('"' :: text.toList.flatMap (escape true) ++ ['"'])

def bracketed (items : List String) : String := "[" ++ ", ".intercalate items ++ "]"

end UnitCache.Text
