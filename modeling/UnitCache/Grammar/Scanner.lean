import UnitCache.Grammar.Production
/-!
Finding the next token in a text. The scanner follows all tokens that are looked for at once and remembers the last
one that was complete; the longest match wins, except that a complete token keeps weaker ones from going on.
-/
namespace UnitCache.Grammar

inductive ScanPoint where
  | step (on : CharSet) (next : Nat)
  | split (left right : Nat)
  | complete
  /-- A blank has been read: any token may start here. -/
  | restart
  deriving Inhabited

/-- Points under construction with the token each belongs to; the number of tokens stands for blanks. -/
abbrev ScanPoints := Array (Nat × ScanPoint)

/-- Adds the points of a pattern that goes on at `next`; gives the point it starts at. -/
def Pattern.points (owner : Nat) : Pattern → Nat → ScanPoints → Nat × ScanPoints
  | .empty, next, points => (next, points)
  | .chars set, next, points => (points.size, points.push (owner, .step set next))
  | .seq first second, next, points =>
    let (middle, points) := second.points owner next points
    first.points owner middle points
  | .alt left right, next, points =>
    let (left, points) := left.points owner next points
    let (right, points) := right.points owner next points
    (points.size, points.push (owner, .split left right))
  | .star body, next, points =>
    let hub := points.size
    let (entry, points) := body.points owner hub (points.push (owner, .split next next))
    (hub, points.setIfInBounds hub (owner, .split entry next))

def reachable (points : ScanPoints) : Nat → List Nat → List Nat → List Nat → List Nat
  | 0, _, _, found => found.reverse
  | _, [], _, found => found.reverse
  | fuel + 1, point :: waiting, seen, found =>
    if seen.contains point then reachable points fuel waiting seen found
    else
      match points[point]? with
      | some (_, .split left right) =>
        reachable points fuel (left :: right :: waiting) (point :: seen) found
      | _ => reachable points fuel waiting (point :: seen) (point :: found)

structure ScanState where
  owner : Nat
  point : ScanPoint
  next : List Nat
  deriving Inhabited

structure Scanner where
  tokens : Array Token
  points : Array ScanState
  starts : Array (List Nat)
  blankStarts : List Nat
  deriving Inhabited

def Scanner.ofTokens (tokens : Array Token) (blanks : Pattern) : Scanner :=
  let blankOwner := tokens.size
  let (blankEntry, points) := blanks.points blankOwner 0 #[(blankOwner, .restart)]
  let (entries, points) := tokens.toList.zipIdx.foldl
    (fun (state : Array Nat × ScanPoints) (token, index) =>
      let points := state.2.push (index, .complete)
      let (entry, points) := token.pattern.points index (points.size - 1) points
      (state.1.push entry, points)) (#[], points)
  let reach (point : Nat) : List Nat := reachable points (3 * points.size) [point] [] []
  { tokens
    points := points.map fun (owner, point) =>
      { owner, point,
        next := match point with
          | .step _ next => reach next
          | _ => [] }
    starts := entries.map reach
    blankStarts := reach blankEntry }

structure ScanGoal where
  afterBlank : List Nat
  immediate : List Nat
  atEnd : Bool
  deriving Inhabited

def Scanner.goal (scanner : Scanner) (tokens : List Nat) (atEnd : Bool) : ScanGoal :=
  let startsOf (token : Nat) : List Nat := (scanner.starts[token]?).getD []
  let isImmediate (token : Nat) : Bool := ((scanner.tokens[token]?).map Token.immediate).getD false
  { afterBlank := (tokens.filter fun token => !isImmediate token).flatMap startsOf ++ scanner.blankStarts
    immediate := (tokens.filter isImmediate).flatMap startsOf
    atEnd }

inductive Scanned where
  | token (index start stop : Nat)
  | endOfText (position : Nat)
  /-- No token; where it would have started and how far the text was looked at. -/
  | nothing (start reached : Nat)
  deriving Inhabited

structure ScanMove where
  next : List Nat
  restarts : Bool
  strength : Int
  blank : Bool

namespace Scanner

def strengthOf (scanner : Scanner) (owner : Nat) : Int :=
  ((scanner.tokens[owner]?).map Token.strength).getD 0

def rankOf (scanner : Scanner) (owner : Nat) : Nat :=
  ((scanner.tokens[owner]?).map Token.rank).getD 0

def prefers (scanner : Scanner) (left right : Nat) : Bool :=
  let leftStrength := scanner.strengthOf left
  let rightStrength := scanner.strengthOf right
  if leftStrength != rightStrength then decide (leftStrength > rightStrength)
  else if scanner.rankOf left != scanner.rankOf right then
    decide (scanner.rankOf left > scanner.rankOf right)
  else decide (left < right)

def completed? (scanner : Scanner) (active : List Nat) : Option Nat :=
  active.foldl (fun (best : Option Nat) (point : Nat) =>
    match scanner.points[point]? with
    | some { owner, point := .complete, .. } =>
      match best with
      | none => some owner
      | some other => if scanner.prefers owner other then some owner else some other
    | _ => best) none

def addPoints (found : List Nat) : List Nat → List Nat
  | [] => found
  | point :: rest => if found.contains point then addPoints found rest else addPoints (point :: found) rest

def move? (scanner : Scanner) (c : Char) (points : List Nat) : Option ScanMove :=
  points.foldl (fun (found : Option ScanMove) (point : Nat) =>
    match scanner.points[point]? with
    | some { owner, point := .step on _, next } =>
      if on.contains c then
        let blank := owner == scanner.tokens.size
        let strength := scanner.strengthOf owner
        let plain := next.filter (· != 0)
        let restarts := next.contains 0
        match found with
        | none => some { next := plain, restarts, strength, blank }
        | some earlier => some {
            next := addPoints earlier.next plain
            restarts := earlier.restarts || restarts
            strength := max earlier.strength strength
            blank := earlier.blank && blank }
      else found
    | _ => found) none

def ownedBy (scanner : Scanner) (owner point : Nat) : Bool :=
  ((scanner.points[point]?).map ScanState.owner) == some owner

/-- Whether reading goes on after a token is complete: not into a weaker one, not as a blank, and not into the
same token where a blank could be read instead. -/
def goesOn (scanner : Scanner) (complete : Nat) (blankPossible : Bool) (move : ScanMove) : Bool :=
  let strength := scanner.strengthOf complete
  if move.strength < strength then false
  else if move.strength == strength then
    !move.blank && !(blankPossible && move.next.any (scanner.ownedBy complete))
  else true

def scanAt (scanner : Scanner) (source : Array Char) (goal : ScanGoal) (position start : Nat)
    (active : List Nat) (restarted : Bool) (best : Option (Nat × Nat × Nat)) : Scanned :=
  let complete := scanner.completed? active
  let best :=
    match complete with
    | some token => some (token, start, position)
    | none => best
  let result :=
    match best with
    | some (token, start, stop) => Scanned.token token start stop
    | none => Scanned.nothing start position
  if h : position < source.size then
    let points := if restarted then goal.afterBlank ++ active else active
    match scanner.move? source[position] points with
    | none => result
    | some move =>
      let blankPossible := restarted || active.any (scanner.ownedBy scanner.tokens.size)
      let goesOn :=
        match complete with
        | none => true
        | some token => scanner.goesOn token blankPossible move
      if goesOn then
        scanAt scanner source goal (position + 1) (if move.blank then position + 1 else start)
          move.next move.restarts best
      else result
  else if goal.atEnd && best.isNone && restarted then .endOfText position
  else result
termination_by source.size - position

/-- Scans for the next token from a position on. A byte order mark at the very start is passed over. -/
def scan (scanner : Scanner) (source : Array Char) (goal : ScanGoal) (position : Nat) : Scanned :=
  let position := if position == 0 && source[0]? == some '\uFEFF' then 1 else position
  scanner.scanAt source goal position position goal.immediate true none

end Scanner

end UnitCache.Grammar
