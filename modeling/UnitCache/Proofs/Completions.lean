import UnitCache.Proofs.ByteOrder
import UnitCache.Proofs.Cursors
import UnitCache.Proofs.Declarations
/-!
What is offered at a cursor. The name is the longest one at the end of what stands before the cursor in its line, and
each thing whose name starts with it is offered once: by the bytes of the names, and those of one name in the order in
which they are declared.
-/
namespace UnitCache.Text

/-- How a line of a source ends: with a line feed, and the carriage return before it if there is one, or at the end of
the source, where no line is left that is empty. -/
inductive Ends (line : List Char) : (ending after : List Char) → Prop where
  | feed {after : List Char} (plain : line.getLast? ≠ some '\r') : Ends line ['\n'] after
  | returned {after : List Char} : Ends line ['\r', '\n'] after
  | last (full : line ≠ []) : Ends line [] []

def NthLine (source : List Char) (number : Nat) (line : List Char) : Prop :=
  ∃ before ending after, source = before ++ line ++ ending ++ after ∧ before.count '\n' + 1 = number ∧
    (before = [] ∨ before.getLast? = some '\n') ∧ '\n' ∉ line ∧ Ends line ending after

section Lines

variable {source line skipped : List Char} {number : Nat}

theorem NthLine.behind (known : NthLine source number line) (whole : '\n' ∉ skipped) :
    NthLine (skipped ++ '\n' :: source) (number + 1) line := by
  obtain ⟨before, ending, after, rfl, rfl, start, inside, ends⟩ := known
  refine ⟨skipped ++ '\n' :: before, ending, after, by simp, ?_, .inr ?_, inside, ends⟩
  · simp [List.count_eq_zero_of_not_mem whole]
  · obtain rfl | last := start
    · simp
    · rw [List.getLast?_append, List.getLast?_cons, last]
      rfl

theorem nthLine_endLine (whole : '\n' ∉ line) (after : List Char) :
    NthLine (line ++ '\n' :: after) 1 (endLine line.reverse) := by
  by_cases returns : line.getLast? = some '\r'
  · obtain ⟨init, rfl⟩ := List.getLast?_eq_some_iff.mp returns
    rw [endLine_return]
    refine ⟨[], ['\r', '\n'], after, by simp, rfl, .inl rfl, ?_, .returned⟩
    intro member
    exact whole (List.mem_append_left _ member)
  · rw [endLine_of_getLast? returns]
    exact ⟨[], ['\n'], after, by simp, rfl, .inl rfl, whole, .feed returns⟩

theorem nthLine_of_getElem? {current : List Char} (whole : '\n' ∉ current) {index : Nat}
    (found : (linesFrom current.reverse source)[index]? = some line) :
    NthLine (current ++ source) (index + 1) line := by
  induction source generalizing current index with
  | nil =>
    rw [linesFrom] at found
    split at found
    next => cases found
    next full =>
      have full : current ≠ [] := by simpa using full
      obtain ⟨rfl, same⟩ : index = 0 ∧ current = line := by simpa [List.getElem?_singleton] using found
      exact ⟨[], [], [], by simp [same], rfl, .inl rfl, same ▸ whole, .last (same ▸ full)⟩
  | cons c source ih =>
    rw [linesFrom] at found
    by_cases feed : c = '\n'
    · subst feed
      rw [if_pos BEq.rfl] at found
      cases index with
      | zero =>
        obtain rfl : endLine current.reverse = line := Option.some.inj found
        exact nthLine_endLine whole source
      | succ index => exact (ih List.not_mem_nil found).behind whole
    · have longer : '\n' ∉ current ++ [c] := by simpa [whole] using Ne.symm feed
      rw [if_neg (by simpa using feed), ← List.reverse_concat] at found
      have known := ih longer found
      rwa [List.append_assoc] at known

end Lines

end UnitCache.Text

namespace UnitCache.C

open Clang (bytes)
open UnitCache.Syntax
open Node (part symbol)
open Outline (isBlock)

def IsLongestStart (room : Nat) (line start : List Char) : Prop :=
  start <+: line ∧ bytes start ≤ room ∧ ∀ other, other <+: line → bytes other ≤ room → other <+: start

/-- The longest name that stands at the end of a text. -/
def IsLongestName (text name : List Char) : Prop :=
  name <:+ text ∧ (∀ c ∈ name, isNameChar c = true) ∧
    ∀ other, other <:+ text → (∀ c ∈ other, isNameChar c = true) → other <:+ name

/-- What is found of all declarations, in the order of the text, for a name. -/
structure IsOffer (all : List Declaration) (name : List Char) (found : List Declaration) : Prop where
  mem_iff (declaration : Declaration) : declaration ∈ found ↔
    all.find? declaration.declaresSame = some declaration ∧ name <+: declaration.name.toList
  distinct : found.Pairwise fun first second =>
    ¬(first.name = second.name ∧ first.kind.sameSort second.kind = true)
  sorted : found.Pairwise fun first second => Text.bytesOf first.name ≤ Text.bytesOf second.name
  ordered : found.Pairwise fun first second => first.name = second.name →
    all.findIdx first.declaresSame < all.findIdx second.declaresSame

section Names

variable {place : Nat} {text name start other : List Char}

theorem prefix_withinBytes (starts : other <+: text) (room : bytes other ≤ place) :
    other <+: withinBytes place text := by
  induction text generalizing other place with
  | nil => exact starts
  | cons c text ih =>
    cases other with
    | nil => exact List.nil_prefix
    | cons d other =>
      obtain ⟨rfl, rest⟩ := List.cons_prefix_cons.mp starts
      simp only [bytes] at room
      rw [withinBytes, if_pos (by omega)]
      exact (List.prefix_cons_inj d).mpr (ih rest (by omega))

theorem isLongestStart_withinBytes (place : Nat) (text : List Char) :
    IsLongestStart place text (withinBytes place text) :=
  ⟨withinBytes_starts place text, bytes_withinBytes_le place text, fun _ => prefix_withinBytes⟩

theorem isLongestName_append {before : List Char} {c : Char} (outside : isNameChar c = false)
    (all : ∀ d ∈ name, isNameChar d = true) : IsLongestName (before ++ c :: name) name := by
  have ends : c :: name <:+ before ++ c :: name := List.suffix_append before _
  refine ⟨(List.suffix_cons c name).trans ends, all, ?_⟩
  intro other also inside
  have without : c ∉ other := by
    intro member
    rw [inside c member] at outside
    cases outside
  obtain more | within := List.suffix_or_suffix_of_suffix ends also
  · exact absurd (more.subset List.mem_cons_self) without
  · obtain same | shorter := List.suffix_cons_iff.mp within
    · exact absurd (same ▸ List.mem_cons_self) without
    · exact shorter

theorem isLongestName_of_found (found : nameAtEnd text = .found name) : IsLongestName text name := by
  obtain all | ⟨before, c, part, rfl, outside, all⟩ := name_cases text
  · rw [nameAtEnd_of_forall all] at found
    cases found
    exact ⟨List.suffix_rfl, all, fun other also _ => also⟩
  · rw [nameAtEnd_append outside all] at found
    split at found
    · cases found
      exact isLongestName_append outside all
    · cases found

end Names

section Sorting

variable {α : Type} {le : α → α → Bool} {order : α → α → Prop}

/-- Of what is sorted, those stay in order that are equal. -/
theorem mergeSort_keeps_order (trans : ∀ a b c : α, le a b → le b c → le a c) (total : ∀ a b : α, le a b || le b a)
    {list : List α} (ordered : list.Pairwise order) :
    (list.mergeSort le).Pairwise fun first second => le second first = true → order first second := by
  induction list with
  | nil =>
    rw [List.mergeSort_nil]
    exact List.Pairwise.nil
  | cons a list ih =>
    obtain ⟨behind, rest⟩ := List.pairwise_cons.mp ordered
    obtain ⟨before, after, whole, same, less⟩ := List.mergeSort_cons trans total a list
    have kept := ih rest
    have listed {b : α} (member : b ∈ after) : b ∈ list := by
      rw [← List.mem_mergeSort, same]
      exact List.mem_append_right _ member
    rw [same, List.pairwise_append] at kept
    obtain ⟨first, second, across⟩ := kept
    rw [whole, List.pairwise_append]
    refine ⟨first, List.Pairwise.cons ?_ second, ?_⟩
    · intro b member _
      exact behind b (listed member)
    · intro b member c also
      obtain rfl | also := List.mem_cons.mp also
      · intro greater
        have not := less b member
        rw [greater] at not
        cases not
      · exact across b member c also

end Sorting

section Offers

variable {unit : TreeUnit} {source : String} {path : Path} {line column : UInt32} {name : List Char}
  {candidates : List Candidate}

theorem typedName_eq_found (typed : typedName source line column = .found name) :
    ∃ text, Text.NthLine source.toList line.toNat text ∧
      nameAtEnd (withinBytes (column.toNat - 1) text) = .found name := by
  obtain ⟨-, error, refused⟩ | ⟨-, text, ⟨ahead, known⟩, same⟩ := typedName_cases source line column
  · rw [refused] at typed
    cases typed
  · have place := Text.nthLine_of_getElem? List.not_mem_nil known
    have positive : line.toNat ≠ 0 := fun zero => ahead (UInt32.toNat_inj.mp zero)
    have number : line.toNat - 1 + 1 = line.toNat := by omega
    rw [number] at place
    exact ⟨text, place, same.symm.trans typed⟩

theorem complete_eq_candidates (completed : unit.complete path line column = .candidates candidates) :
    ∃ name, typedName unit.contents.source line column = .found name ∧
      candidates = (unit.declarationsStarting name).map Declaration.toCandidate := by
  rw [TreeUnit.complete] at completed
  split at completed
  next =>
    cases typed : typedName unit.contents.source line column with
    | found name =>
      rw [typed] at completed
      exact ⟨name, rfl, (Completed.candidates.inj completed).symm⟩
    | refused error =>
      rw [typed] at completed
      cases completed
    | unsplittable =>
      rw [typed] at completed
      cases completed
  next => cases completed

theorem sorts_trans (first second third : Declaration) (less : decide (first.name ≤ second.name) = true)
    (also : decide (second.name ≤ third.name) = true) : decide (first.name ≤ third.name) = true :=
  decide_eq_true (String.le_trans (of_decide_eq_true less) (of_decide_eq_true also))

theorem sorts_total (first second : Declaration) :
    (decide (first.name ≤ second.name) || decide (second.name ≤ first.name)) = true := by
  simpa using String.le_total first.name second.name

theorem isOffer_declarationsStarting {all : List Declaration}
    (first : unit.contents.declarations = Declaration.firsts all) (name : List Char) :
    IsOffer all name (unit.declarationsStarting name) := by
  rw [TreeUnit.declarationsStarting, first]
  have kept : ((Declaration.firsts all).filter fun declaration => name.isPrefixOf declaration.name.toList).Sublist
      (Declaration.firsts all) := List.filter_sublist
  constructor
  case mem_iff =>
    intro declaration
    rw [List.mem_mergeSort, List.mem_filter, Declaration.mem_firsts, List.isPrefixOf_iff_prefix]
  case distinct =>
    have apart := (Declaration.firsts_distinct all).sublist kept
    refine (apart.perm (List.mergeSort_perm ..).symm ?_).imp ?_
    · intro first second other
      rwa [Declaration.declaresSame_comm]
    · intro first second other same
      rw [Declaration.declaresSame_iff.mpr same] at other
      cases other
  case sorted =>
    apply (List.pairwise_mergeSort sorts_trans sorts_total _).imp
    intro first second less
    exact (Text.le_iff_bytesOf_le ..).mp (of_decide_eq_true less)
  case ordered =>
    apply (mergeSort_keeps_order sorts_trans sorts_total ((Declaration.firsts_ordered all).sublist kept)).imp
    intro first second earlier same
    exact earlier (decide_eq_true (same ▸ String.le_refl _))

end Offers

/-- Whether candidates are those that belong to a cursor: they are made from what is to be offered for the longest name
that ends before the cursor, once from each declaration of the unit that starts with it. -/
def BelongAt (unit : TreeUnit) (all : List Declaration) (line column : UInt32) (candidates : List Candidate) : Prop :=
  ∃ text start name found, Text.NthLine unit.contents.source.toList line.toNat text ∧
    IsLongestStart (column.toNat - 1) text start ∧ IsLongestName start name ∧
    candidates = found.map Declaration.toCandidate ∧
    found.Perm (unit.contents.declarations.filter fun declaration => name.isPrefixOf declaration.name.toList) ∧
    IsOffer all name found

/-- The candidates that a unit of the declarations of a tree gives are those that belong to the cursor. -/
theorem candidates_belong_at_cursor {outline : Outline} {root : Node} {unit : TreeUnit} {path : Path}
    {line column : UInt32} {candidates : List Candidate}
    (extracted : unit.contents.declarations = outline.declarations root)
    (completed : unit.complete path line column = .candidates candidates) :
    BelongAt unit ((root.outside isBlock).filterMap outline.declared) line column candidates := by
  have first : unit.contents.declarations =
      Declaration.firsts ((root.outside isBlock).filterMap outline.declared) := by
    rw [extracted, Outline.declarations, Outline.declarationsIn_eq]
  obtain ⟨name, typed, rfl⟩ := complete_eq_candidates completed
  obtain ⟨text, place, found⟩ := typedName_eq_found typed
  exact ⟨text, _, name, unit.declarationsStarting name, place, isLongestStart_withinBytes _ text,
    isLongestName_of_found found, rfl, List.mergeSort_perm .., isOffer_declarationsStarting first name⟩

def namesakeTree : Node :=
  let function (row start : Nat) : Node :=
    part "declaration" none row 0 start (start + 8) [
      part "primitive_type" (some "type") row 0 start (start + 3) [],
      part "function_declarator" (some "declarator") row 4 (start + 4) (start + 7) [
        part "identifier" (some "declarator") row 4 (start + 4) (start + 5) [],
        part "parameter_list" (some "parameters") row 5 (start + 5) (start + 7) [
          symbol "(" row 5 (start + 5), symbol ")" row 6 (start + 6)]],
      symbol ";" row 7 (start + 7)]
  part "translation_unit" none 0 0 0 37 [
    function 0 0,
    part "struct_specifier" none 1 0 9 17 [
      symbol "struct" 1 0 9, part "type_identifier" (some "name") 1 7 16 17 []],
    symbol ";" 1 8 17, function 2 19, function 3 28]

/-- Of two functions of one name the first is offered, ahead of the structure of this name and behind another one. -/
theorem namesakes_stay_in_order :
    let source := "int b();\nstruct b;\nint a();\nint b();\n"
    let outline : Outline := ⟨.ofString source, "a.c"⟩
    let unit : TreeUnit := ⟨⟨"a.c"⟩, [], ⟨source, outline.declarations namesakeTree, []⟩⟩
    let function (name : String) : Candidate :=
      ⟨.functionDecl, [⟨.resultType, "int"⟩, ⟨.typedText, name⟩, ⟨.leftParen, "("⟩, ⟨.rightParen, ")"⟩]⟩
    let candidates := [function "a", function "b", ⟨.structDecl, [⟨.typedText, "b"⟩]⟩]
    unit.complete ⟨"a.c"⟩ 1 1 = .candidates candidates ∧
      BelongAt unit ((namesakeTree.outside isBlock).filterMap outline.declared) 1 1 candidates := by
  intro source outline unit function candidates
  have declared : unit.contents.declarations = [⟨"b", .function "int" [], ⟨"a.c", 1, 1⟩⟩,
      ⟨"b", .struct, ⟨"a.c", 2, 1⟩⟩, ⟨"a", .function "int" [], ⟨"a.c", 3, 1⟩⟩] := by decide +kernel
  have typed : typedName unit.contents.source 1 1 = .found [] := by decide
  have starting : unit.declarationsStarting [] = [⟨"a", .function "int" [], ⟨"a.c", 3, 1⟩⟩,
      ⟨"b", .function "int" [], ⟨"a.c", 1, 1⟩⟩, ⟨"b", .struct, ⟨"a.c", 2, 1⟩⟩] := by
    rw [TreeUnit.declarationsStarting, declared]
    simp [List.mergeSort]
  have completed : unit.complete ⟨"a.c"⟩ 1 1 = .candidates candidates := by
    rw [TreeUnit.complete, if_pos BEq.rfl, typed]
    exact congrArg Completed.candidates (congrArg (List.map Declaration.toCandidate) starting)
  exact ⟨completed, candidates_belong_at_cursor rfl completed⟩

end UnitCache.C
