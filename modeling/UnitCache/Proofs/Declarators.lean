import Mathlib.Data.Option.Basic
import UnitCache.Proofs.Declarations
/-!
The names that declarators introduce. A declaration may have several declarators, and what a declarator introduces may
stand in parentheses; the names that are found are those at the end of the first declarators, one inside the other.
-/
namespace UnitCache.C

open UnitCache.Syntax
open Node (part symbol)
open Outline (isName isBlock)

def DeclarationKind.isFunction : DeclarationKind → Bool
  | .function .. => true
  | _ => false

def DeclarationKind.isTypedef : DeclarationKind → Bool
  | .typedef => true
  | _ => false

def mayDeclareFunction (node : Node) : Bool := node.kind == "function_definition" || node.kind == "declaration"

def isTypeDefinition (node : Node) : Bool := node.kind == "type_definition"

def isPointer (node : Node) : Bool := node.kind == "pointer_declarator"

def isParenthesized (node : Node) : Bool :=
  ["parenthesized_declarator", "attributed_declarator"].contains node.kind

def isDeclarator (node : Node) : Bool :=
  isName node || ["primitive_type", "pointer_declarator", "function_declarator", "array_declarator",
    "parenthesized_declarator", "attributed_declarator"].contains node.kind

def declaratorsOf (node : Node) : List Node :=
  node.children.filter fun child => child.info.field == some "declarator" && !child.info.isExtra

/-- What is reached from a declarator by its first one, and so on, as long as they are of some kind. -/
inductive Reaches (through : Node → Bool) : Node → Node → Prop where
  | here {node : Node} (stays : through node = false) : Reaches through node node
  | inside {node inner target : Node} (goes : through node = true) (first : (declaratorsOf node).head? = some inner)
      (rest : Reaches through inner target) : Reaches through node target

/-- A name that a declarator introduces: it stands for itself, or inside any declarator or parentheses of it. -/
inductive Introduces : Node → Node → Prop where
  | name {node : Node} (named : isName node = true ∨ node.kind = "primitive_type") : Introduces node node
  | inside {node inner target : Node} (member : inner ∈ declaratorsOf node) (rest : Introduces inner target) :
      Introduces node target
  | parenthesized {node inner target : Node} (around : isParenthesized node = true) (member : inner ∈ node.children)
      (declares : isDeclarator inner = true) (rest : Introduces inner target) : Introduces node target

def DeclaresFunction (outline : Outline) (declarator : Node) (name : String) : Prop :=
  ∃ function, Reaches isPointer declarator function ∧ function.kind = "function_declarator" ∧
    ∃ named, (declaratorsOf function).head? = some named ∧ named.kind = "identifier" ∧ outline.text named = name

/-- The first declarators of a declarator lead to a name. -/
def DeclaresName (outline : Outline) (declarator : Node) (name : String) : Prop :=
  ∃ named, Reaches (fun node => !isName node) declarator named ∧ outline.text named = name

section Reached

variable {through : Node → Bool} {node inner target : Node} {name : String}

theorem child?_eq (node : Node) : node.child? "declarator" = (declaratorsOf node).head? := List.head?_filter.symm

theorem reaches_of_stays (stays : through node = false) : Reaches through node target ↔ node = target := by
  constructor
  · intro reached
    cases reached with
    | here => rfl
    | inside goes => exact absurd goes (by simp [stays])
  · intro same
    exact same ▸ .here stays

theorem reaches_of_goes (goes : through node = true) : Reaches through node target ↔
    ∃ inner, node.child? "declarator" = some inner ∧ Reaches through inner target := by
  constructor
  · intro reached
    cases reached with
    | here stays => exact absurd goes (by simp [stays])
    | inside _ first rest => exact ⟨_, (child?_eq node).trans first, rest⟩
  · intro ⟨inner, first, rest⟩
    exact .inside goes ((child?_eq node).symm.trans first) rest

theorem dereference_eq_some (node target : Node) :
    (Outline.dereference node).2 = some target ↔ Reaches isPointer node target := by
  fun_induction Outline.dereference node with
  | case1 node pointer none =>
    rw [reaches_of_goes pointer, none]
    simp
  | case2 node pointer inner first pointers reached same ih =>
    rw [reaches_of_goes pointer, first]
    rw [same] at ih
    simpa using ih
  | case3 node other =>
    rw [reaches_of_stays (by simpa [isPointer] using other)]
    simp

theorem declaredName?_eq_some (outline : Outline) (node : Node) (name : String) :
    outline.declaredName? node = some name ↔ DeclaresName outline node name := by
  fun_induction outline.declaredName? node with
  | case1 node named =>
    simp [DeclaresName, reaches_of_stays, named]
  | case2 node other none =>
    simp [DeclaresName, reaches_of_goes, other, none]
  | case3 node other inner first ih =>
    simp [ih, DeclaresName, reaches_of_goes, other, first]

end Reached

section Declared

variable {outline : Outline} {node : Node} {declaration : Declaration} {name : String}

theorem function?_eq_some (outline : Outline) (node : Node) (declaration : Declaration) :
    outline.function? node = some declaration ↔
      ∃ declarator, (declaratorsOf node).head? = some declarator ∧
        ∃ function, Reaches isPointer declarator function ∧ function.kind = "function_declarator" ∧
        ∃ named, (declaratorsOf function).head? = some named ∧ named.kind = "identifier" ∧
        ⟨outline.text named,
          .function (Outline.pointerTo (outline.textOf node "type") (Outline.dereference declarator).1)
            (((function.child? "parameters").map outline.parameters).getD []), outline.location node⟩ = declaration := by
  simp only [← child?_eq, ← dereference_eq_some]
  simp [Outline.function?, Option.bind_eq_some_iff]

theorem declared_eq_some (outline : Outline) (node : Node) (declaration : Declaration) :
    outline.declared node = some declaration ↔
      (mayDeclareFunction node = true ∧ outline.function? node = some declaration) ∨
      (node.kind = "struct_specifier" ∧ ∃ named, node.child? "name" = some named ∧
        ⟨outline.text named, .struct, outline.location node⟩ = declaration) ∨
      (isTypeDefinition node = true ∧ ∃ declarator, (declaratorsOf node).head? = some declarator ∧
        ∃ name, DeclaresName outline declarator name ∧ ⟨name, .typedef, outline.location node⟩ = declaration) := by
  simp only [mayDeclareFunction, isTypeDefinition, Bool.or_eq_true, beq_iff_eq, Outline.declared, ← child?_eq,
    ← declaredName?_eq_some]
  by_cases may : node.kind = "function_definition" ∨ node.kind = "declaration"
  · obtain kind | kind := may <;> simp [kind]
  · by_cases specifier : node.kind = "struct_specifier"
    · simp [specifier]
    · by_cases definition : node.kind = "type_definition"
      · simp [definition, Option.bind_eq_some_iff]
      · simp [may, specifier, definition]

/-- A node declares a function of a name if its first declarator does, and it is of a kind that may. -/
theorem declared_isFunction (outline : Outline) (node : Node) (name : String) :
    (∃ declaration, outline.declared node = some declaration ∧ declaration.name = name ∧
      declaration.kind.isFunction = true) ↔
    mayDeclareFunction node = true ∧
      ∃ declarator, (declaratorsOf node).head? = some declarator ∧ DeclaresFunction outline declarator name := by
  constructor
  · intro ⟨declaration, found, same, kind⟩
    obtain ⟨may, function⟩ | ⟨-, _, -, rfl⟩ | ⟨-, _, -, _, -, rfl⟩ := (declared_eq_some ..).mp found
    · obtain ⟨declarator, first, target, reached, of, named, inner, plain, rfl⟩ := (function?_eq_some ..).mp function
      exact ⟨may, declarator, first, target, reached, of, named, inner, plain, same⟩
    · cases kind
    · cases kind
  · intro ⟨may, declarator, first, target, reached, of, named, inner, plain, same⟩
    have function := (function?_eq_some outline node _).mpr
      ⟨declarator, first, target, reached, of, named, inner, plain, rfl⟩
    exact ⟨_, (declared_eq_some ..).mpr (.inl ⟨may, function⟩), same, rfl⟩

theorem declared_isTypedef (outline : Outline) (node : Node) (name : String) :
    (∃ declaration, outline.declared node = some declaration ∧ declaration.name = name ∧
      declaration.kind.isTypedef = true) ↔
    isTypeDefinition node = true ∧
      ∃ declarator, (declaratorsOf node).head? = some declarator ∧ DeclaresName outline declarator name := by
  constructor
  · intro ⟨declaration, found, same, kind⟩
    obtain ⟨-, function⟩ | ⟨-, _, -, rfl⟩ | ⟨definition, declarator, first, _, leads, rfl⟩ :=
      (declared_eq_some ..).mp found
    · obtain ⟨_, _, _, _, _, _, _, _, rfl⟩ := (function?_eq_some ..).mp function
      cases kind
    · cases kind
    · exact ⟨definition, declarator, first, same ▸ leads⟩
  · intro ⟨definition, declarator, first, leads⟩
    have found := (declared_eq_some ..).mpr (.inr (.inr ⟨definition, declarator, first, name, leads, rfl⟩))
    exact ⟨_, found, rfl, rfl⟩

theorem location_of_declared (declared : outline.declared node = some declaration) :
    declaration.location = outline.location node := by
  obtain ⟨-, function⟩ | ⟨-, _, -, rfl⟩ | ⟨-, _, -, _, -, rfl⟩ := (declared_eq_some ..).mp declared
  · obtain ⟨_, _, _, _, _, _, _, _, rfl⟩ := (function?_eq_some ..).mp function
    rfl
  · rfl
  · rfl

/-- What is kept of the declarations of a tree is declared by nodes that lie in no block, and each sort of thing of a
name that such a node declares is kept. -/
theorem exists_declaration {sort : DeclarationKind → Bool}
    (respects : ∀ first second : DeclarationKind, first.sameSort second = true → sort first = sort second)
    (outline : Outline) (root : Node) (name : String) :
    (∃ declaration ∈ outline.declarations root, declaration.name = name ∧ sort declaration.kind = true) ↔
      ∃ node ∈ root.outside isBlock, ∃ declaration, outline.declared node = some declaration ∧
        declaration.name = name ∧ sort declaration.kind = true := by
  rw [Outline.declarations, Outline.declarationsIn_eq]
  constructor
  · intro ⟨declaration, kept, holds⟩
    obtain ⟨node, outside, declared⟩ := List.mem_filterMap.mp (Declaration.mem_of_mem_firsts kept)
    exact ⟨node, outside, declaration, declared, holds⟩
  · intro ⟨node, outside, declaration, declared, same, holds⟩
    have member := List.mem_filterMap.mpr ⟨node, outside, declared⟩
    obtain ⟨kept, first, alike⟩ := Declaration.exists_mem_firsts member
    obtain ⟨named, sorted⟩ := Declaration.declaresSame_iff.mp alike
    exact ⟨kept, first, named.symm.trans same, (respects _ _ sorted).symm.trans holds⟩

end Declared

/-- Which functions and type names are found. A function is found if it is that of the first declarator of a node that
may declare one, behind any pointers, and a type name if the first declarators of a definition lead to it; so is
nothing else, and nothing inside a block. What further declarators introduce is not found, and nor is a type name in
parentheses, which fills no field. -/
theorem first_declarators_are_found (outline : Outline) (root : Node) :
    (∀ name, (∃ declaration ∈ outline.declarations root,
        declaration.name = name ∧ declaration.kind.isFunction = true) ↔
      ∃ node ∈ root.outside isBlock, mayDeclareFunction node = true ∧
        ∃ declarator, (declaratorsOf node).head? = some declarator ∧ DeclaresFunction outline declarator name) ∧
    (∀ name, (∃ declaration ∈ outline.declarations root,
        declaration.name = name ∧ declaration.kind.isTypedef = true) ↔
      ∃ node ∈ root.outside isBlock, isTypeDefinition node = true ∧
        ∃ declarator, (declaratorsOf node).head? = some declarator ∧ DeclaresName outline declarator name) ∧
    ∀ declaration ∈ outline.declarations root, ∃ node ∈ root.outside isBlock, isBlock node = false ∧
      outline.declared node = some declaration ∧ declaration.location = outline.location node := by
  refine ⟨?functions, ?typedefs, ?blocks⟩
  case functions =>
    intro name
    have respects (first second : DeclarationKind) (same : first.sameSort second = true) :
        first.isFunction = second.isFunction := by
      cases first <;> cases second <;> trivial
    simp only [exists_declaration respects, declared_isFunction]
  case typedefs =>
    intro name
    have respects (first second : DeclarationKind) (same : first.sameSort second = true) :
        first.isTypedef = second.isTypedef := by
      cases first <;> cases second <;> trivial
    simp only [exists_declaration respects, declared_isTypedef]
  case blocks =>
    intro declaration kept
    rw [Outline.declarations, Outline.declarationsIn_eq] at kept
    obtain ⟨node, outside, declared⟩ := List.mem_filterMap.mp (Declaration.mem_of_mem_firsts kept)
    refine ⟨node, outside, ?_, declared, location_of_declared declared⟩
    cases block : isBlock node with
    | false => rfl
    | true =>
      rw [Outline.declared_of_isBlock outline block] at declared
      cases declared

/-- The tree of a declaration of two functions, and in the line below a definition of a type name in parentheses. -/
def sharedTree : Node :=
  let void (row column start : Nat) : Node :=
    part "parameter_list" (some "parameters") row column start (start + 6) [
      symbol "(" row column start,
      part "parameter_declaration" none row (column + 1) (start + 1) (start + 5) [
        part "primitive_type" (some "type") row (column + 1) (start + 1) (start + 5) []],
      symbol ")" row (column + 5) (start + 5)]
  let function (column : Nat) : Node :=
    part "function_declarator" (some "declarator") 0 column column (column + 7) [
      part "identifier" (some "declarator") 0 column column (column + 1) [], void 0 (column + 1) (column + 1)]
  part "translation_unit" none 0 0 0 47 [
    part "declaration" none 0 0 0 21 [
      part "primitive_type" (some "type") 0 0 0 3 [], function 4, symbol "," 0 11 11, function 13, symbol ";" 0 20 20],
    part "type_definition" none 1 0 22 46 [
      symbol "typedef" 1 0 22, part "primitive_type" (some "type") 1 8 30 33 [],
      part "function_declarator" (some "declarator") 1 12 34 45 [
        part "parenthesized_declarator" (some "declarator") 1 12 34 39 [
          symbol "(" 1 12 34,
          part "pointer_declarator" none 1 13 35 38 [
            symbol "*" 1 13 35, part "type_identifier" (some "declarator") 1 14 36 38 []],
          symbol ")" 1 16 38],
        void 1 17 39],
      symbol ";" 1 23 45]]

/-- A second function and a type name in parentheses are introduced, but not found. -/
theorem further_declarators_are_lost :
    let outline : Outline := ⟨.ofString "int f(void), g(void);\ntypedef int (*cb)(void);\n", "a.c"⟩
    sharedTree.info.hasError = false ∧
    (∃ node ∈ sharedTree.outside isBlock, mayDeclareFunction node = true ∧
      ∃ declarator ∈ declaratorsOf node, DeclaresFunction outline declarator "g") ∧
    (∃ node ∈ sharedTree.outside isBlock, isTypeDefinition node = true ∧
      ∃ declarator ∈ declaratorsOf node, ∃ named, Introduces declarator named ∧ outline.text named = "cb") ∧
    (outline.declarations sharedTree).map Declaration.name = ["f"] := by
  refine ⟨rfl, ?function, ?typeName, by decide +kernel⟩
  case function =>
    refine ⟨_, List.mem_of_getElem? (rfl : (sharedTree.outside isBlock)[1]? = some _), rfl, _,
      List.mem_of_getElem? (rfl : (declaratorsOf _)[1]? = some _), ?_⟩
    exact ⟨_, .here rfl, rfl, _, rfl, rfl, by decide +kernel⟩
  case typeName =>
    refine ⟨_, List.mem_of_getElem? (rfl : (sharedTree.outside isBlock)[19]? = some _), rfl, _,
      List.mem_of_getElem? (rfl : (declaratorsOf _)[0]? = some _), ?_⟩
    exact ⟨_, .inside (List.mem_of_getElem? (rfl : (declaratorsOf _)[0]? = some _))
      (.parenthesized rfl (List.mem_of_getElem? (rfl : (Node.children _)[1]? = some _)) rfl
        (.inside (List.mem_of_getElem? (rfl : (declaratorsOf _)[0]? = some _)) (.name (.inl rfl)))), by decide +kernel⟩

end UnitCache.C
