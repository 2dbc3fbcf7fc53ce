namespace UnitCache.Syntax

structure Point where
  row : Nat
  column : Nat
  deriving BEq, DecidableEq, Inhabited, Repr

/-- A text with the place of each character; the last place is the end. -/
structure Source where
  chars : Array Char
  bytes : Array Nat
  points : Array Point
  deriving Inhabited

namespace Source

def pointAfter (c : Char) (point : Point) : Point :=
  if c == '\n' then ⟨point.row + 1, 0⟩ else ⟨point.row, point.column + c.utf8Size⟩

def ofString (text : String) : Source :=
  let (bytes, points, byte, point) := text.toList.foldl
    (fun (state : Array Nat × Array Point × Nat × Point) c =>
      (state.1.push state.2.2.1, state.2.1.push state.2.2.2, state.2.2.1 + c.utf8Size,
        pointAfter c state.2.2.2)) (#[], #[], 0, ⟨0, 0⟩)
  { chars := text.toList.toArray, bytes := bytes.push byte, points := points.push point }

def byteAt (source : Source) (position : Nat) : Nat := source.bytes[position]?.getD 0

def pointAt (source : Source) (position : Nat) : Point := source.points[position]?.getD ⟨0, 0⟩

def bytesBetween (source : Source) (start stop : Nat) : Nat := source.byteAt stop - source.byteAt start

def rowsBetween (source : Source) (start stop : Nat) : Nat :=
  (source.pointAt stop).row - (source.pointAt start).row

def slice (source : Source) (start stop : Nat) : String :=
  String.ofList (source.chars.extract start stop).toList

end Source

end UnitCache.Syntax
