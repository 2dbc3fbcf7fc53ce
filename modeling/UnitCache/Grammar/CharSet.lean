namespace UnitCache.Grammar

structure CharSet where
  ranges : Array (Nat × Nat)
  deriving Inhabited

namespace CharSet

/-- Whether the range at a position at or above `low` and below `high` holds the code point. -/
def containsBetween (ranges : Array (Nat × Nat)) (point low high : Nat) : Bool :=
  if low < high then
    let middle := (low + high) / 2
    match ranges[middle]? with
    | none => false
    | some (first, last) =>
      if point < first then containsBetween ranges point low middle
      else if last < point then containsBetween ranges point (middle + 1) high
      else true
  else false
termination_by high - low

def contains (set : CharSet) (c : Char) : Bool :=
  containsBetween set.ranges c.toNat 0 set.ranges.size

def joinFront (range : Nat × Nat) : List (Nat × Nat) → List (Nat × Nat)
  | [] => [range]
  | next :: rest =>
    if next.1 ≤ range.2 + 1 then joinFront (range.1, max range.2 next.2) rest
    else range :: next :: rest

def orderRanges (ranges : List (Nat × Nat)) : List (Nat × Nat) :=
  ranges.mergeSort (fun left right => decide (left.1 ≤ right.1))

def ofRanges (ranges : List (Nat × Nat)) : CharSet :=
  ⟨((orderRanges ranges).foldr joinFront []).toArray⟩

def ofChars (chars : List Char) : CharSet :=
  ofRanges (chars.map fun c => (c.toNat, c.toNat))

def between (first last : Char) : CharSet := ⟨#[(first.toNat, last.toNat)]⟩

def union (left right : CharSet) : CharSet :=
  ofRanges (left.ranges.toList ++ right.ranges.toList)

/-- The gaps between sorted ranges, from a code point up to the last one there is. -/
def gapsFrom (low : Nat) : List (Nat × Nat) → List (Nat × Nat)
  | [] => if low ≤ 0x10FFFF then [(low, 0x10FFFF)] else []
  | (first, last) :: rest =>
    if low < first then (low, first - 1) :: gapsFrom (last + 1) rest
    else gapsFrom (last + 1) rest

def complement (set : CharSet) : CharSet := ⟨(gapsFrom 0 set.ranges.toList).toArray⟩

end CharSet

end UnitCache.Grammar
