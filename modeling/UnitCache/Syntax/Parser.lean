import UnitCache.Syntax.Stack
/-!
Parsing with recovery from errors. Readings go on side by side while the grammar leaves their choice open or an
error may be mended in several ways; the one whose errors cost least is the tree. An error is mended by putting in
one missing token, by going back to a state in which the next token fits, or by skipping tokens until one fits.
-/
namespace UnitCache.Syntax

open UnitCache.Grammar

structure Parse where
  source : Source
  stack : Stack
  finished : Option Tree := none
  accepts : Nat := 0

def maximumVersions : Nat := 6

def versionOverflow : Nat := 4

def trailDepth : Nat := 16

/-- How much worse a reading may be before it is given up; its progress counts. -/
def maximumCostDifference : Nat := 18 * costs.tree

inductive Preference where
  | takeLeft
  | preferLeft
  | neither
  | preferRight
  | takeRight

structure Standing where
  cost : Nat
  progress : Nat
  dynamic : Int
  isInError : Bool

def Standing.compare (left right : Standing) : Preference :=
  if !left.isInError && right.isInError then
    if left.cost < right.cost then .takeLeft else .preferLeft
  else if left.isInError && !right.isInError then
    if right.cost < left.cost then .takeRight else .preferRight
  else if left.cost < right.cost then
    if maximumCostDifference < (right.cost - left.cost) * (1 + left.progress) then .takeLeft else .preferLeft
  else if right.cost < left.cost then
    if maximumCostDifference < (left.cost - right.cost) * (1 + right.progress) then .takeRight else .preferRight
  else if right.dynamic < left.dynamic then .preferLeft
  else if left.dynamic < right.dynamic then .preferRight
  else .neither

/-- Scans for a token; where none of those expected is found, for any token, over characters that fit none. -/
structure Lexing where
  automaton : Automaton
  source : Source

namespace Lexing

/-- Scans over text that no token fits until one is found or the text ends. `from` is where the text before was
looked at, `start` and `stop` bound what is skipped so far. -/
def skipUnknown (lexing : Lexing) : Nat → Nat → Option (Nat × Nat) → Option (Nat × Nat)
  | 0, _, skipped => skipped
  | fuel + 1, position, skipped =>
    match lexing.automaton.scanner.scan lexing.source.chars lexing.automaton.skipGoal position with
    | .token .. => skipped
    | .endOfText _ => skipped
    | .nothing scanStart reached =>
      let (start, stop) := skipped.getD (scanStart, scanStart)
      if reached == stop then
        if reached < lexing.source.chars.size then skipUnknown lexing fuel (reached + 1) (some (start, reached + 1))
        else some (start, stop)
      else skipUnknown lexing fuel reached (some (start, reached))

def token (lexing : Lexing) (place : Place) (position : Nat) : Tree :=
  let automaton := lexing.automaton
  let goal :=
    match place with
    | none => automaton.skipGoal
    | some state => (automaton.state state).goal
  let expected :=
    match place with
    | none => automaton.skipExpected
    | some state => (automaton.state state).expected
  let ofScan (index start stop : Nat) : Tree :=
    if index == automaton.tables.grammar.word then
      match automaton.keywords[lexing.source.slice start stop]? with
      | some keyword =>
        Tree.token (if expected.testBit keyword then keyword else index) position start stop true
          automaton.endOfText
      | none => Tree.token index position start stop false automaton.endOfText
    else Tree.token index position start stop false automaton.endOfText
  let atEnd (stop : Nat) : Tree := Tree.token automaton.endOfText position stop stop false automaton.endOfText
  match automaton.scanner.scan lexing.source.chars goal position with
  | .token index start stop => ofScan index start stop
  | .endOfText stop => atEnd stop
  | .nothing .. =>
    match automaton.scanner.scan lexing.source.chars automaton.skipGoal position with
    | .token index start stop => ofScan index start stop
    | .endOfText stop => atEnd stop
    | .nothing .. =>
      match lexing.skipUnknown (2 * lexing.source.chars.size + 2) position none with
      | some (start, stop) => Tree.unknownText position start stop
      | none => atEnd lexing.source.chars.size

end Lexing

namespace Parse

def automaton (parse : Parse) : Automaton := parse.stack.automaton

def onStack (parse : Parse) (change : Stack → Stack) : Parse := { parse with stack := change parse.stack }

/-- The actions of a state at a token; none for text that no token fits. -/
def actionsAt (automaton : Automaton) (state : Nat) : TreeSymbol → List Action
  | .terminal index => automaton.actions state index
  | _ => []

def fits (automaton : Automaton) (state : Nat) (symbol : TreeSymbol) : Bool :=
  !(actionsAt automaton state symbol).isEmpty

def comparisonFuel (parse : Parse) : Nat := 64 * (parse.source.chars.size + parse.stack.nodes.size) + 1024

def prefersSecond (parse : Parse) (left right : Tree) : Bool :=
  Tree.prefersSecond parse.automaton parse.comparisonFuel left right

def groupSlices : Stack.Slices → List (Nat × List (List Tree))
  | [] => []
  | (version, trees) :: rest =>
    match groupSlices rest with
    | (other, group) :: groups =>
      if other == version then (version, trees :: group) :: groups
      else (version, [trees]) :: (other, group) :: groups
    | [] => [(version, [trees])]

def mergeInto (stack : Stack) (except version : Nat) : List Nat → Option Stack
  | [] => none
  | earlier :: rest =>
    if earlier == except then mergeInto stack except version rest
    else
      match stack.merge? earlier version with
      | some stack => some stack
      | none => mergeInto stack except version rest

structure Building where
  owner : Nat
  length : Nat
  dynamic : Int
  labels : List Label

def buildGroups (building : Building) (version halted : Nat) :
    List (Nat × List (List Tree)) → Nat → Parse → Parse
  | [], _, parse => parse
  | (found, group) :: rest, removed, parse =>
    let target := found - removed
    if maximumVersions + versionOverflow + halted < target then
      buildGroups building version halted rest (removed + 1) (parse.onStack (·.remove target))
    else
      let automaton := parse.automaton
      let nodeOf (trees : List Tree) : Tree × List Tree :=
        let (children, extras) := Tree.splitExtras trees
        (Tree.ofChildren automaton parse.source (.nonterminal building.owner) building.labels
          (parse.stack.position target) children, extras)
      let (node, extras) :=
        match group with
        | [] => nodeOf []
        | first :: others => others.foldl (fun best trees =>
            let candidate := nodeOf trees
            if parse.prefersSecond best.1 candidate.1 then candidate else best) (nodeOf first)
      let node := node.withSummary fun summary =>
        { summary with dynamic := summary.dynamic + building.dynamic }
      let next := (parse.stack.place target).bind fun state =>
        automaton.target? state (.nonterminal building.owner)
      let stack := parse.stack.push target (some node) next
      let stack := extras.foldl (fun stack extra => stack.push target (some extra) next) stack
      match mergeInto stack version target (List.range target) with
      | some stack => buildGroups building version halted rest (removed + 1) { parse with stack }
      | none => buildGroups building version halted rest removed { parse with stack }

/-- Builds a node on a reading; gives the first reading that came out of it. -/
def reduce (version : Nat) (building : Building) (parse : Parse) : Option Nat × Parse :=
  let before := parse.stack.heads.size
  let (slices, stack) := parse.stack.popCount version building.length
  let halted := (stack.heads.filter Head.isHalted).size
  let parse := buildGroups building version halted (groupSlices slices) 0 { parse with stack }
  (if before < parse.stack.heads.size then some before else none, parse)

def standing (parse : Parse) (version : Nat) : Standing :=
  let head := parse.stack.head version
  { cost := parse.stack.errorCost version + (if head.isPaused then costs.tree else 0)
    progress := parse.stack.progress version
    dynamic := (parse.stack.top version).dynamic
    isInError := head.isPaused || (parse.stack.place version).isNone }

def betterAmong (version position : Nat) (mine : Standing) : List Nat → Parse → Bool × Parse
  | [], parse => (false, parse)
  | other :: rest, parse =>
    if other == version || !(parse.stack.head other).isActive
        || parse.stack.position other < position then
      betterAmong version position mine rest parse
    else
      let parse := parse.onStack (·.clampWeight other)
      match mine.compare (parse.standing other) with
      | .takeRight => (true, parse)
      | .preferRight =>
        if parse.stack.canMerge other version then (true, parse)
        else betterAmong version position mine rest parse
      | _ => betterAmong version position mine rest parse

/-- Whether going on with a reading at a given cost would be worse than something at hand. -/
def betterExists (version cost : Nat) (parse : Parse) : Bool × Parse :=
  match parse.finished with
  | some tree =>
    if tree.summary.cost ≤ cost then (true, parse) else search
  | none => search
where
  search : Bool × Parse :=
    let parse := parse.onStack (·.clampWeight version)
    let mine : Standing := {
      cost
      progress := parse.stack.progress version
      dynamic := (parse.stack.top version).dynamic
      isInError := false }
    betterAmong version (parse.stack.position version) mine (List.range parse.stack.heads.size) parse

def rootOf (automaton : Automaton) (source : Source) (trees : List Tree) : Option Tree :=
  let behind := (trees.reverse.takeWhile fun tree => tree.summary.extra).reverse
  match (trees.take (trees.length - behind.length)).reverse with
  | [] => none
  | tree :: before =>
    some (Tree.ofChildren automaton source tree.summary.symbol tree.summary.labels tree.summary.start
      (before.reverse ++ tree.children ++ behind))

/-- Ends a reading at the end of the text; its tree is kept if it is the best. -/
def accept (version : Nat) (token : Tree) (parse : Parse) : Parse :=
  let (slices, stack) := (parse.stack.push version (some token) (some 0)).popAll version
  let parse := slices.foldl (fun (parse : Parse) slice =>
    match rootOf parse.automaton parse.source slice.2 with
    | none => parse
    | some root =>
      let finished :=
        match parse.finished with
        | none => root
        | some best => if parse.prefersSecond best root then root else best
      { parse with finished := some finished, accepts := parse.accepts + 1 }) { parse with stack }
  match slices with
  | [] => parse.onStack (·.halt version)
  | (first, _) :: _ => parse.onStack fun stack => (stack.remove first).halt version

def addBuilding (found : List Building) (action : Action) : List Building :=
  match action with
  | .reduce owner length dynamic labels =>
    if length == 0 || found.any (fun other => other.owner == owner && other.length == length) then found
    else found ++ [{ owner, length, dynamic, labels }]
  | _ => found

/-- Whether an action reads a token that does not stand just anywhere. -/
def readsOn : Action → Bool
  | .shift _ again => !again
  | _ => false

/-- Builds every node that can be built on a reading, whatever the next token, or at one token only. Tells whether
the token can be read afterwards by some reading. -/
def reduceAll (starting : Nat) (only : Option Nat) (initialCount : Nat) :
    Nat → Nat → Nat → Bool → Parse → Bool × Parse
  | 0, _, _, can, parse => (can, parse)
  | fuel + 1, round, version, can, parse =>
    let count := parse.stack.heads.size
    if count ≤ version then (can, parse)
    else
      let earlier := (List.range version).filter fun other => decide (initialCount ≤ other)
      match mergeInto parse.stack version version earlier with
      | some stack => reduceAll starting only initialCount fuel (round + 1) version can { parse with stack }
      | none =>
        let automaton := parse.automaton
        let actions : List Action :=
          match parse.stack.place version with
          | none => []
          | some state =>
            match only with
            | some token => automaton.actions state token
            | none => automaton.order.flatMap (automaton.actions state)
        let reads := actions.any readsOn || (parse.stack.place version).isNone
        let (last, parse) := (actions.foldl addBuilding []).foldl
          (fun (state : Option Nat × Parse) building => reduce version building state.2) (none, parse)
        let afterwards : Nat := if version == starting then count else version + 1
        if reads then reduceAll starting only initialCount fuel (round + 1) afterwards true parse
        else
          match last, only with
          | some new, _ =>
            if round < maximumVersions then
              reduceAll starting only initialCount fuel (round + 1) version can
                (parse.onStack (·.renumber new version))
            else
              let parse := if only.isSome then parse.onStack (·.remove version) else parse
              reduceAll starting only initialCount fuel (round + 1) afterwards can parse
          | none, some _ =>
            reduceAll starting only initialCount fuel (round + 1) afterwards can
              (parse.onStack (·.remove version))
          | none, none => reduceAll starting only initialCount fuel (round + 1) afterwards can parse

/-- Builds every node that can be built on a reading. The end of the text restricts nothing. -/
def reduceEverything (version : Nat) (only : Option Nat) (parse : Parse) : Bool × Parse :=
  let only := only.filter (· != parse.automaton.endOfText)
  reduceAll version only parse.stack.heads.size (64 * (parse.stack.heads.size + 16)) 0 version false parse

/-- Goes back to a state further down, with what lies above it as an error. -/
def recoverEach (goal : Place) : Stack.Slices → Option Nat → Parse → Option Nat × Parse
  | [], previous, parse => (previous, parse)
  | (version, trees) :: rest, previous, parse =>
    if previous == some version then recoverEach goal rest previous parse
    else if parse.stack.place version != goal then
      recoverEach goal rest previous (parse.onStack (·.halt version))
    else
      let (errors, stack) := parse.stack.popError version
      let trees := (errors.flatMap Tree.children) ++ trees
      let (children, extras) := Tree.splitExtras trees
      let stack :=
        if children.isEmpty then stack
        else
          let error := Tree.ofChildren parse.automaton parse.source .error [] 0 children
          stack.push version (some (error.withSummary fun summary => { summary with extra := true })) goal
      let stack := extras.foldl (fun stack extra => stack.push version (some extra) goal) stack
      recoverEach goal rest (some version) { parse with stack }

/-- Goes back to a state at a depth; fails if no way leads there. -/
def recoverTo (version depth : Nat) (goal : Place) (parse : Parse) : Bool × Parse :=
  let (slices, stack) := parse.stack.popCount version depth
  let (last, parse) := recoverEach goal slices none { parse with stack }
  (last.isSome, parse)

def recoverAlong (version : Nat) (token : Tree) (readings skippedDepth currentCost : Nat) :
    List Footprint → Parse → Bool × Parse
  | [], parse => (false, parse)
  | footprint :: rest, parse =>
    let position := parse.stack.position version
    match footprint.place with
    | none => recoverAlong version token readings skippedDepth currentCost rest parse
    | some state =>
      if footprint.position == position then
        recoverAlong version token readings skippedDepth currentCost rest parse
      else if (List.range readings).any fun other =>
          parse.stack.place other == footprint.place && parse.stack.position other == position then
        recoverAlong version token readings skippedDepth currentCost rest parse
      else
        let cost := currentCost + footprint.depth * costs.tree
          + parse.source.bytesBetween footprint.position position * costs.byte
          + parse.source.rowsBetween footprint.position position * costs.line
        let (worse, parse) := betterExists version cost parse
        if worse then (false, parse)
        else if fits parse.automaton state token.summary.symbol then
          let (recovered, parse) := recoverTo version (footprint.depth + skippedDepth) footprint.place parse
          if recovered then (true, parse)
          else recoverAlong version token readings skippedDepth currentCost rest parse
        else recoverAlong version token readings skippedDepth currentCost rest parse

def removeIdle (first : Nat) (stack : Stack) : Stack :=
  { stack with
    heads := (stack.heads.toList.zipIdx.filter fun (head, index) =>
      decide (index < first) || head.isActive).map Prod.fst |>.toArray }

def skipToken (version : Nat) (token : Tree) (hasSkipped : Bool) (parse : Parse) : Parse :=
  let automaton := parse.automaton
  let isExtra := token.summary.symbol == .terminal automaton.tables.grammar.extra
  let token := if isExtra then token.withSummary fun summary => { summary with extra := true } else token
  let join (trees : List Tree) : Tree := Tree.ofChildren automaton parse.source .skipped [] 0 trees
  if hasSkipped then
    let (slices, stack) := parse.stack.popCount version 1
    match slices with
    | [] => { parse with stack := stack.push version (some (join [token])) none }
    | (first, trees) :: others =>
      let stack :=
        if others.isEmpty then stack else { stack with heads := stack.heads.take (first + 1) }
      let stack := stack.renumber first version
      { parse with stack := stack.push version (some (join (trees ++ [join [token]]))) none }
  else { parse with stack := parse.stack.push version (some (join [token])) none }

def recover (version : Nat) (token : Tree) (parse : Parse) : Parse :=
  let readings := parse.stack.heads.size
  let position := parse.stack.position version
  let trail := ((parse.stack.head version).trail).getD []
  let parse := parse.onStack (·.clampWeight version)
  let hasSkipped := decide (0 < parse.stack.progress version)
  let currentCost := parse.stack.errorCost version
  let isUnknown := token.summary.symbol == .error
  let (recovered, parse) :=
    if isUnknown then (false, parse)
    else recoverAlong version token readings (if hasSkipped then 1 else 0) currentCost trail parse
  let parse := parse.onStack (removeIdle readings)
  if recovered && maximumVersions < parse.stack.heads.size then parse.onStack (·.halt version)
  else if token.summary.symbol == .terminal parse.automaton.endOfText then
    let error := Tree.ofChildren parse.automaton parse.source .error [] position []
    accept version token (parse.onStack (·.push version (some error) (some 0)))
  else
    let cost := currentCost + costs.tree
      + parse.source.bytesBetween token.summary.origin token.summary.stop * costs.byte
      + parse.source.rowsBetween token.summary.origin token.summary.stop * costs.line
    let (worse, parse) := betterExists version cost parse
    if worse then parse.onStack (·.halt version) else skipToken version token hasSkipped parse

def buildsAt (automaton : Automaton) (state : Nat) (symbol : TreeSymbol) : Bool :=
  match actionsAt automaton state symbol with
  | .reduce .. :: _ => true
  | _ => false

def stateAfter? (automaton : Automaton) (state terminal : Nat) : Option Nat :=
  match (automaton.actions state terminal).getLast? with
  | some (.shift next _) => if next == state then none else some next
  | _ => none

def insertMissing (version state position : Nat) (token : Tree) : List Nat → Parse → Bool × Parse
  | [], parse => (false, parse)
  | missing :: rest, parse =>
    match stateAfter? parse.automaton state missing with
    | none => insertMissing version state position token rest parse
    | some next =>
      if buildsAt parse.automaton next token.summary.symbol then
        let (copied, stack) := parse.stack.copy version
        let stack := stack.push copied (some (Tree.missingToken missing position)) (some next)
        let only : Option Nat :=
          match token.summary.symbol with
          | .terminal index => some index
          | _ => none
        let (can, parse) := reduceEverything copied only { parse with stack }
        if can then (true, parse) else insertMissing version state position token rest parse
      else insertMissing version state position token rest parse

/-- Starts skipping on every reading that an error led to; a missing token is put in on the first that allows it. -/
def beginSkipping (token : Tree) (position : Nat) : List Nat → Bool → Parse → Parse
  | [], _, parse => parse
  | version :: rest, inserted, parse =>
    let (inserted, parse) :=
      match inserted, parse.stack.place version with
      | false, some state => insertMissing version state position token parse.automaton.order parse
      | _, _ => (inserted, parse)
    beginSkipping token position rest inserted (parse.onStack (·.push version none none))

def handleError (version : Nat) (token : Tree) (parse : Parse) : Parse :=
  let previous := parse.stack.heads.size
  let (_, parse) := reduceEverything version none parse
  let count := parse.stack.heads.size
  let position := parse.stack.position version
  let added := (List.range (count - previous)).map (previous + ·)
  let parse := beginSkipping token position (version :: added) false parse
  let parse := added.foldl (fun (parse : Parse) _ =>
    match parse.stack.merge? version previous with
    | some stack => { parse with stack }
    | none => parse) parse
  recover version token (parse.onStack (·.recordTrail version trailDepth))

inductive Outcome where
  | ended (parse : Parse)
  | built (last : Option Nat) (any : Bool) (parse : Parse)

def act (version state : Nat) (token : Tree) : List Action → Option Nat → Bool → Parse → Outcome
  | [], last, any, parse => .built last any parse
  | .shift next again :: rest, last, any, parse =>
    if again then act version state token rest last any parse
    else .ended (parse.onStack (·.push version (some token) (some next)))
  | .shiftExtra :: _, _, _, parse =>
    let extra := token.withSummary fun summary => { summary with extra := true }
    .ended (parse.onStack (·.push version (some extra) (some state)))
  | .reduce owner length dynamic labels :: rest, last, _, parse =>
    let (new, parse) := reduce version { owner, length, dynamic, labels } parse
    act version state token rest (new <|> last) true parse
  | .accept :: _, _, _, parse => .ended (accept version token parse)

def stepAt (version : Nat) : Nat → Tree → Parse → Parse
  | 0, _, parse => parse.onStack (·.halt version)
  | fuel + 1, token, parse =>
    let automaton := parse.automaton
    match parse.stack.place version with
    | none =>
      if token.summary.symbol == .terminal automaton.tables.grammar.extra then
        let extra := token.withSummary fun summary => { summary with extra := true }
        parse.onStack (·.push version (some extra) none)
      else recover version token parse
    | some state =>
      match act version state token (actionsAt automaton state token.summary.symbol) none false parse with
      | .ended parse => parse
      | .built (some last) _ parse => stepAt version fuel token (parse.onStack (·.renumber last version))
      | .built none true parse => parse.onStack (·.halt version)
      | .built none false parse =>
        let word := automaton.tables.grammar.word
        if token.summary.keyword && token.summary.symbol != .terminal word
            && !(automaton.actions state word).isEmpty then
          stepAt version fuel (token.withSummary fun summary => { summary with symbol := .terminal word }) parse
        else
          parse.onStack (·.updateHead version fun head =>
            { head with status := .paused token, errorWeight := (parse.stack.top version).weight })

def advance (version : Nat) (parse : Parse) : Parse :=
  let automaton := parse.automaton
  let token := Lexing.token { automaton, source := parse.source } (parse.stack.place version)
    (parse.stack.position version)
  stepAt version ((automaton.tables.grammar.nonterminals.size + 2) * (parse.stack.nodes.size + 2)) token parse

def advanceVersion (version : Nat) : Nat → Nat → Parse → Nat × Parse
  | 0, last, parse => (last, parse)
  | fuel + 1, last, parse =>
    if (parse.stack.head version).isActive && decide (version < parse.stack.heads.size) then
      let parse := advance version parse
      let position := parse.stack.position version
      if last < position || (0 < version && position == last) then (position, parse)
      else advanceVersion version fuel last parse
    else (last, parse)

def advanceAll (fuel : Nat) : Nat → Nat → Nat → Parse → Nat × Parse
  | 0, _, last, parse => (last, parse)
  | rounds + 1, version, last, parse =>
    if version < parse.stack.heads.size then
      let (last, parse) := advanceVersion version fuel last parse
      advanceAll fuel rounds (version + 1) last parse
    else (last, parse)

/-- Compares a reading with the earlier ones, from `earlier` on; gives the number of the reading after it. -/
def condenseAt (mine : Standing) : Nat → Nat → Nat → Parse → Nat × Parse
  | 0, version, _, parse => (version + 1, parse)
  | fuel + 1, version, earlier, parse =>
    if earlier < version then
      let parse := parse.onStack (·.clampWeight earlier)
      let joined := parse.stack.merge? earlier version
      match (parse.standing earlier).compare mine with
      | .takeLeft => (version, parse.onStack (·.remove version))
      | .takeRight => condenseAt mine fuel (version - 1) earlier (parse.onStack (·.remove earlier))
      | .preferRight =>
        match joined with
        | some stack => (version, { parse with stack })
        | none =>
          let swapped := parse.onStack fun stack =>
            { stack with heads := stack.heads.swapIfInBounds version earlier }
          condenseAt mine fuel version (earlier + 1) swapped
      | _ =>
        match joined with
        | some stack => (version, { parse with stack })
        | none => condenseAt mine fuel version (earlier + 1) parse
    else (version + 1, parse)

/-- Orders the readings and drops those not worth going on with; gives the least cost of a reading without an
error at hand. -/
def condenseFrom : Nat → Nat → Option Nat → Parse → Option Nat × Parse
  | 0, _, least, parse => (least, parse)
  | fuel + 1, version, least, parse =>
    if version < parse.stack.heads.size then
      if (parse.stack.head version).isHalted then
        condenseFrom fuel version least (parse.onStack (·.remove version))
      else
        let parse := parse.onStack (·.clampWeight version)
        let mine := parse.standing version
        let least :=
          if mine.isInError then least
          else some (match least with
            | none => mine.cost
            | some cost => min cost mine.cost)
        let (next, parse) := condenseAt mine (parse.stack.heads.size + 1) version 0 parse
        condenseFrom fuel next least parse
    else (least, parse)

def resumeFrom : Nat → Nat → Nat → Bool → Option Nat → Parse → Option Nat × Parse
  | 0, _, _, _, least, parse => (least, parse)
  | fuel + 1, version, count, going, least, parse =>
    if version < count then
      match (parse.stack.head version).status with
      | .paused token =>
        if !going && parse.accepts < maximumVersions then
          let cost := parse.stack.errorCost version
          let parse := parse.onStack (·.updateHead version fun head => { head with status := .active })
          resumeFrom fuel (version + 1) count true (some cost) (handleError version token parse)
        else resumeFrom fuel version (count - 1) going least (parse.onStack (·.remove version))
      | _ => resumeFrom fuel (version + 1) count true least parse
    else (least, parse)

def condense (parse : Parse) : Option Nat × Parse :=
  let (least, parse) := condenseFrom (2 * parse.stack.heads.size + 2) 0 none parse
  let parse := parse.onStack fun stack => { stack with heads := stack.heads.take maximumVersions }
  let count := parse.stack.heads.size
  resumeFrom (2 * count + 2) 0 count false least parse

def run (fuel : Nat) : Nat → Nat → Parse → Parse
  | 0, _, parse => parse
  | rounds + 1, last, parse =>
    let (last, parse) := advanceAll fuel fuel 0 last parse
    let count := parse.stack.heads.size
    let (least, parse) := condense parse
    let isBest :=
      match parse.finished, least with
      | some tree, some cost => decide (tree.summary.cost < cost)
      | some _, none => true
      | none, _ => false
    if isBest || count == 0 || parse.stack.heads.isEmpty then parse else run fuel rounds last parse

end Parse

/-- Parses a text; none only if the parse does not come to an end. -/
def parse? (automaton : Automaton) (source : Source) : Option Tree :=
  let start : Parse := { source, stack := Stack.initial automaton }
  let fuel := 64 * (source.chars.size + 16)
  (Parse.run fuel fuel 0 start).finished

end UnitCache.Syntax
