import UnitCache.Text.CharTable

namespace UnitCache.Text

def trimChars (chars : List Char) : List Char := ((chars.dropWhile isBlank).reverse.dropWhile isBlank).reverse

def trim (text : String) : String := String.ofList (trimChars text.toList)

def behind? : List Char → List Char → Option (List Char)
  | [], text => some text
  | _, [] => none
  | expected :: more, c :: rest => if c == expected then behind? more rest else none

end UnitCache.Text
