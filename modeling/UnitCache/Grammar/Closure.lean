import UnitCache.Grammar.Item
/-!
Sets of items. A kernel, the items that were reached by reading, opens further ones, and reading each symbol leads
to the kernel of another set.
-/
namespace UnitCache.Grammar

/-- A set of terminals as bits; the bit after the last terminal is the end of the text. -/
abbrev TokenSet := Nat

def TokenSet.single (index : Nat) : TokenSet := 1 <<< index

def TokenSet.within (small large : TokenSet) : Bool := (small ||| large) == large

def TokenSet.members (set : TokenSet) (bound : Nat) : List Nat :=
  (List.range bound).filter fun index => set.testBit index

def saturate {α : Type} (step : α → Option α) : Nat → α → α
  | 0, value => value
  | fuel + 1, value =>
    match step value with
    | none => value
    | some value => saturate step fuel value

/-- What an unread nonterminal adds to a state: an item, the tokens that follow it in any case, and whether what
follows the nonterminal follows the item. -/
structure Addition where
  item : Nat
  following : TokenSet
  inherits : Bool

structure Tables where
  grammar : Expanded
  items : Items
  firsts : Array TokenSet
  additions : Array (Array Addition)

def firstOf (firsts : Array TokenSet) : Symbol → TokenSet
  | .terminal index => .single index
  | .nonterminal index => firsts[index]?.getD 0

def growFirsts (grammar : Expanded) (firsts : Array TokenSet) : Option (Array TokenSet) :=
  let grown := grammar.productions.foldl (fun (firsts : Array TokenSet) (owner, production) =>
    match production.steps with
    | [] => firsts
    | step :: _ => firsts.modify owner (· ||| firstOf firsts step.symbol)) firsts
  if grown == firsts then none else some grown

def Expanded.firsts (grammar : Expanded) : Array TokenSet :=
  saturate (growFirsts grammar) (grammar.nonterminals.size + 1) (Array.replicate grammar.nonterminals.size 0)

structure Opening where
  /-- For each nonterminal reached: the tokens that follow it, and whether what follows the first one does. -/
  reached : Std.HashMap Nat (TokenSet × Bool)
  waiting : List Nat

def Opening.step (grammar : Expanded) (firsts : Array TokenSet) (opening : Opening) : Option Opening :=
  match opening.waiting with
  | [] => none
  | owner :: waiting =>
    let (following, inherits) := opening.reached[owner]?.getD (0, false)
    some <| ((grammar.productionsOf[owner]?).getD []).foldl (fun (opening : Opening) (number : Nat) =>
      let symbols : Option (List Symbol) :=
        (grammar.productions[number]?).map fun entry => entry.2.steps.map Step.symbol
      match symbols with
      | some (.nonterminal inner :: rest) =>
        let (newFollowing, newInherits) :=
          match rest with
          | [] => (following, inherits)
          | second :: _ => (firstOf firsts second, false)
        match opening.reached[inner]? with
        | none =>
          { reached := opening.reached.insert inner (newFollowing, newInherits),
            waiting := inner :: opening.waiting }
        | some (oldFollowing, oldInherits) =>
          if newFollowing.within oldFollowing && (oldInherits || !newInherits) then opening
          else
            { reached := opening.reached.insert inner
                (oldFollowing ||| newFollowing, oldInherits || newInherits),
              waiting := inner :: opening.waiting }
      | _ => opening) { opening with waiting }

def additionsOf (grammar : Expanded) (items : Items) (firsts : Array TokenSet) (owner : Nat) :
    Array Addition :=
  let opened := saturate (Opening.step grammar firsts)
    (grammar.nonterminals.size * (grammar.tokens.size + 2) + 1)
    { reached := ({} : Std.HashMap Nat (TokenSet × Bool)).insert owner (0, true), waiting := [owner] }
  let found := opened.reached.fold (fun (found : Std.HashMap Nat (TokenSet × Bool)) inner reached =>
    ((grammar.productionsOf[inner]?).getD []).foldl (fun found number =>
      let item := items.starts[number]?.getD 0
      let (following, inherits) := found[item]?.getD (0, false)
      found.insert item (following ||| reached.1, inherits || reached.2)) found) {}
  found.fold (fun additions item (following, inherits) => additions.push ⟨item, following, inherits⟩) #[]

def Expanded.tables (grammar : Expanded) : Tables :=
  let items := Items.ofExpanded grammar
  let firsts := grammar.firsts
  { grammar, items, firsts
    additions := (Array.range grammar.nonterminals.size).map (additionsOf grammar items firsts) }

namespace Tables

def item (tables : Tables) (number : Nat) : Item := tables.items.items[number]?.getD default

def endOfText (tables : Tables) : Nat := tables.grammar.tokens.size

def closure (tables : Tables) (kernel : Array (Nat × TokenSet)) : Std.HashMap Nat TokenSet :=
  let join (found : Std.HashMap Nat TokenSet) (item : Nat) (following : TokenSet) :=
    found.alter item fun old => some (old.getD 0 ||| following)
  kernel.foldl (fun found (number, following) =>
    let item := tables.item number
    match item.symbol? with
    | some (.nonterminal inner) =>
      let afterwards :=
        match item.following? with
        | some symbol => firstOf tables.firsts symbol
        | none => following
      ((tables.additions[inner]?).getD #[]).foldl (fun found addition =>
        join found addition.item
          (if addition.inherits then addition.following ||| afterwards else addition.following)) found
    | _ => found) (kernel.foldl (fun found (number, following) => join found number following) {})

def codeOf (tables : Tables) : Symbol → Nat
  | .terminal index => index
  | .nonterminal index => tables.grammar.tokens.size + index

def insertItem (number : Nat) (following : TokenSet) : List (Nat × TokenSet) → List (Nat × TokenSet)
  | [] => [(number, following)]
  | head :: rest =>
    if number < head.1 then (number, following) :: head :: rest
    else if number == head.1 then (number, head.2 ||| following) :: rest
    else head :: insertItem number following rest

def successors (tables : Tables) (kernel : Array (Nat × TokenSet)) :
    Std.HashMap Nat (List (Nat × TokenSet)) :=
  (tables.closure kernel).fold (fun found number following =>
    let item := tables.item number
    match item.symbol? with
    | none => found
    | some symbol => found.alter (tables.codeOf symbol) fun old =>
      some (insertItem item.next following (old.getD []))) {}

end Tables

end UnitCache.Grammar
