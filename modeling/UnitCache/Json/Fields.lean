import UnitCache.Json.Value
/-!
Reading records. A record is an object with a member for each field, in any order and with others among them, or an
array of the fields in order. A field that is given twice is refused, and so are more items than there are fields.
-/
namespace UnitCache.Json

inductive Field where
  | given (value : Json)
  | missing
  | cutOff
  deriving Inhabited

def text? : Json → Option String
  | .string text => text
  | _ => none

def bool? : Json → Option Bool
  | .bool value => some value
  | _ => none

def naturalBelow? (bound : Nat) : Json → Option Nat
  | .natural value => if value < bound then some value else none
  | _ => none

def word? (value : Json) : Option UInt32 := (value.naturalBelow? UInt32.size).map UInt32.ofNat

def longWord? (value : Json) : Option UInt64 := (value.naturalBelow? UInt64.size).map UInt64.ofNat

def list? {α : Type} (decode : Json → Option α) : Json → Option (List α)
  | .array items => items.mapM decode
  | _ => none

def name? : Json → Option String
  | .string text => text
  | .object [(name, .null)] => name
  | _ => none

def member? (members : List (Option String × Json)) (name : String) : Option Field :=
  match members.filter fun member => member.1 == some name with
  | [] => some .missing
  | [member] => some (.given member.2)
  | _ => none

def itemFields : Nat → List Json → Option (List Field)
  | 0, [] => some []
  | 0, _ :: _ => none
  | count + 1, [] => (itemFields count []).map (Field.cutOff :: ·)
  | count + 1, item :: rest => (itemFields count rest).map (Field.given item :: ·)

def fields? (names : List String) : Json → Option (List Field)
  | .object members =>
    if members.all fun member => member.1.isSome then names.mapM (member? members) else none
  | .array items => itemFields names.length items
  | _ => none

namespace Field

variable {α : Type}

def required (decode : Json → Option α) : Field → Option α
  | given value => decode value
  | _ => none

def optional (decode : Json → Option α) : Field → Option (Option α)
  | given .null => some none
  | given value => (decode value).map some
  | missing => some none
  | cutOff => none

def orDefault (default : α) (decode : Json → Option α) : Field → Option α
  | given value => decode value
  | _ => some default

end Field

def orNull? {α : Type} (decode : Json → Option α) : Json → Option (Option α)
  | .null => some none
  | value => (decode value).map some

end UnitCache.Json
