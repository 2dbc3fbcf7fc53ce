/-!
Text in bytes. Bytes that are no text are read either not at all or as one replacement character for each piece that
could not be the start of a character.
-/
namespace UnitCache.Text

def continues (byte : UInt8) : Bool := 0x80 ≤ byte && byte ≤ 0xBF

def mayFollow (first second : UInt8) : Bool :=
  if first == 0xE0 then 0xA0 ≤ second && second ≤ 0xBF
  else if first == 0xED then 0x80 ≤ second && second ≤ 0x9F
  else if first == 0xF0 then 0x90 ≤ second && second ≤ 0xBF
  else if first == 0xF4 then 0x80 ≤ second && second ≤ 0x8F
  else continues second

/-- How many bytes a character has that starts with a byte; none if no character does. -/
def lengthFrom (first : UInt8) : Option Nat :=
  if first < 0x80 then some 1
  else if 0xC2 ≤ first && first ≤ 0xDF then some 2
  else if 0xE0 ≤ first && first ≤ 0xEF then some 3
  else if 0xF0 ≤ first && first ≤ 0xF4 then some 4
  else none

def addBits (point : Nat) (byte : UInt8) : Nat := point * 64 + byte.toNat % 64

def firstBits (length : Nat) (first : UInt8) : Nat :=
  match length with
  | 1 => first.toNat
  | 2 => first.toNat % 32
  | 3 => first.toNat % 16
  | _ => first.toNat % 8

def decodePieces : List UInt8 → List (Option Char)
  | [] => []
  | first :: rest =>
    match lengthFrom first with
    | none => none :: decodePieces rest
    | some 1 => some (Char.ofNat first.toNat) :: decodePieces rest
    | some length =>
      match rest with
      | [] => [none]
      | second :: rest₂ =>
        if mayFollow first second then
          let bits := addBits (firstBits length first) second
          if length == 2 then some (Char.ofNat bits) :: decodePieces rest₂
          else
            match rest₂ with
            | [] => [none]
            | third :: rest₃ =>
              if continues third then
                let bits := addBits bits third
                if length == 3 then some (Char.ofNat bits) :: decodePieces rest₃
                else
                  match rest₃ with
                  | [] => [none]
                  | fourth :: rest₄ =>
                    if continues fourth then some (Char.ofNat (addBits bits fourth)) :: decodePieces rest₄
                    else none :: decodePieces (fourth :: rest₄)
              else none :: decodePieces (third :: rest₃)
        else none :: decodePieces (second :: rest₂)

def decode? (bytes : List UInt8) : Option String := ((decodePieces bytes).mapM id).map String.ofList

def decodeLossy (bytes : List UInt8) : String :=
  String.ofList ((decodePieces bytes).map fun piece => piece.getD '\uFFFD')

end UnitCache.Text
