namespace UnitCache.Text

/-- A line without the carriage return that may stand before its end; the last character comes first. -/
def endLine : List Char → List Char
  | '\r' :: before => before.reverse
  | line => line.reverse

/-- The lines of a text behind what was read of the first one, of which the last character comes first. -/
def linesFrom (current : List Char) : List Char → List (List Char)
  | [] => if current.isEmpty then [] else [current.reverse]
  | c :: rest => if c == '\n' then endLine current :: linesFrom [] rest else linesFrom (c :: current) rest

/-- The lines of a text. A line ends at a line feed, with or without a carriage return before it; a last line may
end without one. -/
def lines (text : String) : List String := (linesFrom [] text.toList).map String.ofList

end UnitCache.Text
