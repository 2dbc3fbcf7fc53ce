/-!
JSON values as they are read: members in order, with those given twice, and strings whose escapes stand for no text
told apart, since a reader that has no use for them lets them pass.
-/
namespace UnitCache

inductive Json where
  | null
  | bool (value : Bool)
  | natural (value : Nat)
  | otherNumber
  | string (text : Option String)
  | array (items : List Json)
  | object (members : List (Option String × Json))
  deriving Inhabited, Repr

namespace Json

def ofString (text : String) : Json := .string (some text)

def ofMembers (members : List (String × Json)) : Json :=
  .object (members.map fun member => (some member.1, member.2))

def ofOption {α : Type} (encode : α → Json) : Option α → Json
  | none => .null
  | some value => encode value

def ofList {α : Type} (encode : α → Json) (values : List α) : Json := .array (values.map encode)

end Json

end UnitCache
