import UnitCache.C.Declaration
import UnitCache.Proofs.Spots
/-!
The errors of a tree. The search for them passes over the nodes that are not flagged and stops at each error that it
meets. If the flags say where errors are, it finds what a walk over the whole tree finds: each error that lies in no
other, in the order of the text.
-/
namespace UnitCache.Syntax.Node

def isFault (node : Node) : Bool := node.info.isError || node.info.isMissing

/-- A node is flagged if and only if it is an error or one lies in it. -/
def FlagsFaults (root : Node) : Prop :=
  ∀ node ∈ root.nodes, node.info.hasError = true ↔ ∃ inner ∈ node.nodes, inner.isFault = true

variable {root node child : Node}

theorem FlagsFaults.of_child (flags : root.FlagsFaults) (member : child ∈ root.children) : child.FlagsFaults := by
  intro node below
  exact flags node (mem_nodes_of_child member below)

theorem FlagsFaults.faults_eq_nil (flags : root.FlagsFaults) (clear : root.info.hasError = false) :
    (root.outside isFault).filter isFault = [] := by
  apply List.filter_eq_nil_iff.mpr
  intro node reached fault
  have flagged : root.info.hasError = true :=
    (flags root (self_mem_nodes root)).mpr ⟨node, (outside_sublist isFault root).subset reached, fault⟩
  rw [clear] at flagged
  exact Bool.false_ne_true flagged

/-- There is an error if and only if there is one that lies in no other. -/
theorem faults_eq_nil_iff (root : Node) :
    (root.outside isFault).filter isFault = [] ↔ ∀ node ∈ root.nodes, node.isFault = false := by
  rw [List.filter_eq_nil_iff]
  constructor
  · intro none node member
    by_contra fault
    obtain ⟨top, reached, found⟩ := exists_outside member (by simpa using fault)
    exact none top reached found
  · intro none node reached fault
    have clear := none node ((outside_sublist isFault root).subset reached)
    rw [clear] at fault
    exact Bool.false_ne_true fault

end UnitCache.Syntax.Node

namespace UnitCache.C.Outline

open UnitCache.Syntax UnitCache.Syntax.Node

variable {root : Node}

theorem location_eq (outline : Outline) (node : Node) : outline.location node =
    ⟨outline.file, UInt32.ofNat (node.info.point.row + 1), UInt32.ofNat (node.info.point.column + 1)⟩ := by
  rw [UInt32.ofNat_add, UInt32.ofNat_add]
  rfl

theorem errorsAmong_eq (outline : Outline) (nodes : List Node) : outline.errorsAmong nodes =
    nodes.flatMap fun node => if node.info.hasError || node.info.isMissing then outline.errorsIn node else [] := by
  induction nodes with
  | nil => rfl
  | cons node rest ih =>
    rw [errorsAmong, List.flatMap_cons, ih]
    split <;> simp

/-- In a tree whose flags are right, the search finds the errors that lie in no other. -/
theorem errorsIn_eq (outline : Outline) (flags : root.FlagsFaults) :
    outline.errorsIn root = ((root.outside isFault).filter isFault).map outline.syntaxError := by
  induction root with
  | mk info children ih =>
    rw [outside_eq, errorsIn]
    by_cases fault : (info.isError || info.isMissing) = true
    · have whole : isFault (.mk info children) = true := fault
      simp [fault, whole]
    · have whole : isFault (.mk info children) = false := by simpa [isFault, Node.info] using fault
      rw [if_neg fault, if_neg (by simp [whole]), List.filter_cons_of_neg (by simp [whole]), errorsAmong_eq,
        List.filter_flatMap, List.map_flatMap]
      apply List.flatMap_congr
      intro child member
      have flags := flags.of_child member
      by_cases looked : (child.info.hasError || child.info.isMissing) = true
      · rw [if_pos looked]
        exact ih child member flags
      · rw [if_neg looked, flags.faults_eq_nil (by simp_all), List.map_nil]

/-- The search for errors finds what a walk over the whole tree finds: one diagnostic for each node that is an error or
missing and lies in no other such node, in the order of the text. It finds none if and only if there is no such node. -/
theorem syntax_errors_are_topmost (outline : Outline) (flags : root.FlagsFaults) :
    outline.syntaxErrors root = (((root.spots []).filter fun spot =>
        spot.node.isFault && !spot.around.any isFault).map fun spot =>
      { severity := .error
        location := some ⟨outline.file, UInt32.ofNat (spot.node.info.point.row + 1),
          UInt32.ofNat (spot.node.info.point.column + 1)⟩
        message := if spot.node.info.isMissing then "missing " ++ spot.node.info.kind else "syntax error" }) ∧
    (outline.syntaxErrors root = [] ↔ ∀ node ∈ root.nodes, node.info.isError = false ∧ node.info.isMissing = false) := by
  have found : outline.syntaxErrors root = ((root.outside isFault).filter isFault).map outline.syntaxError := by
    by_cases flagged : root.info.hasError = true
    · rw [syntaxErrors, if_pos flagged, outline.errorsIn_eq flags]
    · rw [syntaxErrors, if_neg flagged, flags.faults_eq_nil (by simpa using flagged), List.map_nil]
  constructor
  · rw [found, outside, List.filter_map, List.filter_filter, List.map_map]
    apply List.map_congr_left
    intro spot reached
    rw [← location_eq]
    rfl
  · rw [found, List.map_eq_nil_iff, faults_eq_nil_iff]
    simp only [isFault, Bool.or_eq_false_iff]

/-- The tree of a subscript that is not closed, and in the line below an error within another one. -/
def brokenTree : Node :=
  let leaf (kind : String) (row column start : Nat) : Node :=
    .mk { kind, point := ⟨row, column⟩, start, stop := start + 1 } []
  .mk { kind := "translation_unit", point := ⟨0, 0⟩, start := 0, stop := 10, hasError := true } [
    .mk { kind := "expression_statement", point := ⟨0, 0⟩, start := 0, stop := 4, hasError := true } [
      .mk { kind := "subscript_expression", point := ⟨0, 0⟩, start := 0, stop := 3, hasError := true } [
        leaf "identifier" 0 0 0, leaf "[" 0 1 1, leaf "number_literal" 0 2 2,
        .mk { kind := "]", point := ⟨0, 3⟩, start := 3, stop := 3, isMissing := true, hasError := true } []],
      leaf ";" 0 3 3],
    .mk { kind := "ERROR", point := ⟨1, 0⟩, start := 5, stop := 10, isError := true, hasError := true } [
      leaf "\x7b" 1 0 5,
      .mk { kind := "ERROR", point := ⟨1, 2⟩, start := 7, stop := 8, isError := true, hasError := true } [
        leaf "]" 1 2 7],
      leaf "\x7b" 1 4 9]]

/-- What is missing is reported, and of the two errors the outer one. -/
theorem outer_errors_of_broken_tree :
    let outline : Outline := ⟨.ofString "a[1;\n\x7b ] \x7b", "a.c"⟩
    brokenTree.FlagsFaults ∧ outline.syntaxErrors brokenTree =
      [⟨.error, some ⟨"a.c", 1, 4⟩, "missing ]"⟩, ⟨.error, some ⟨"a.c", 2, 1⟩, "syntax error"⟩] := by
  have flags : brokenTree.FlagsFaults := by
    unfold FlagsFaults
    decide
  refine ⟨flags, (syntax_errors_are_topmost _ flags).1.trans ?_⟩
  rfl

end UnitCache.C.Outline
