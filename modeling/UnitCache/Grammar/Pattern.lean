import UnitCache.Grammar.CharSet

namespace UnitCache.Grammar

inductive Pattern where
  | empty
  | chars (set : CharSet)
  | seq (first second : Pattern)
  | alt (left right : Pattern)
  | star (body : Pattern)
  deriving Inhabited

namespace Pattern

def char (c : Char) : Pattern := .chars (.ofChars [c])

def oneOf (text : String) : Pattern := .chars (.ofChars text.toList)

def noneOf (text : String) : Pattern := .chars (CharSet.ofChars text.toList).complement

def all : List Pattern → Pattern
  | [] => .empty
  | [last] => last
  | head :: rest => .seq head (all rest)

def any : List Pattern → Pattern
  | [] => .empty
  | [last] => last
  | head :: rest => .alt head (any rest)

def text (content : String) : Pattern := all (content.toList.map char)

def optional (body : Pattern) : Pattern := .alt body .empty

def plus (body : Pattern) : Pattern := .seq body (.star body)

def times (count : Nat) (body : Pattern) : Pattern := all (List.replicate count body)

end Pattern

end UnitCache.Grammar
