import UnitCache.Grammar.Pattern
/-!
Grammars as data: rules over literals, lexical tokens and other rules, with the precedences that settle
ambiguities and the names that children get in the tree.
-/
namespace UnitCache.Grammar

inductive Assoc where
  | left
  | right
  deriving BEq, Hashable, Repr

structure Token where
  name : String
  kind : String := name
  pattern : Pattern
  /-- A stronger token keeps a weaker one from going on once it is complete. -/
  strength : Int := 0
  immediate : Bool := false
  /-- The stronger of two tokens that match the same text has the higher rank. -/
  rank : Nat := 0
  shown : Bool := true
  deriving Inhabited

inductive Rule where
  | text (content : String)
  | token (token : Token)
  | ref (name : String)
  | blank
  | seq (members : List Rule)
  | choice (members : List Rule)
  | repeat1 (body : Rule)
  | precedence (level : Int) (assoc : Option Assoc) (body : Rule)
  | dynamic (level : Int) (body : Rule)
  | field (name : String) (body : Rule)
  | renamed (name : String) (body : Rule)
  deriving Inhabited

namespace Rule

instance : Coe String Rule := ⟨.text⟩

def optional (body : Rule) : Rule := .choice [body, .blank]

def repeated (body : Rule) : Rule := .choice [.repeat1 body, .blank]

def commaSeparated1 (body : Rule) : Rule := .seq [body, repeated (.seq [.text ",", body])]

def commaSeparated (body : Rule) : Rule := optional (commaSeparated1 body)

def prec (level : Int) (body : Rule) : Rule := .precedence level none body

def precLeft (level : Int) (body : Rule) : Rule := .precedence level (some .left) body

def precRight (level : Int) (body : Rule) : Rule := .precedence level (some .right) body

end Rule

structure Language where
  rules : List (String × Rule)
  /-- Rules replaced by their content wherever they are used. -/
  inlined : List String
  /-- Rules that stand for a class of nodes and are none themselves. -/
  supertypes : List String
  word : String
  extra : String
  blanks : Pattern
  /-- Tokens that keep parse states apart: whether one of them may follow decides how the text is cut into
  tokens or which action is taken. -/
  boundaries : List String
  /-- Tokens that are not looked for while text is skipped. -/
  unskippable : List String

def Language.isHidden (grammar : Language) (name : String) : Bool :=
  name.startsWith "_" || grammar.supertypes.contains name

end UnitCache.Grammar
