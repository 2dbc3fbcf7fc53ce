import Mathlib.Data.List.Basic
import UnitCache.Syntax.Node
/-!
Where the nodes of a tree lie. Each node is taken in the order of the text, with the nodes that it lies in. A walk that
does not go below the nodes of some kind finds the nodes that lie in none of that kind, in the same order.
-/
namespace UnitCache.Syntax

@[induction_eliminator]
theorem Node.induct {motive : Node → Prop}
    (mk : ∀ info children, (∀ child ∈ children, motive child) → motive (.mk info children)) (node : Node) :
    motive node := by
  cases node with
  | mk info children =>
    apply mk
    intro child member
    exact Node.induct mk child
termination_by sizeOf node
decreasing_by
  have smaller := List.sizeOf_lt_of_mem member
  simp only [Node.mk.sizeOf_spec]
  omega

/-- A node of a tree, with the nodes that it lies in, the innermost one first. -/
structure Spot where
  node : Node
  around : List Node

def Spot.isOutside (stop : Node → Bool) (spot : Spot) : Bool := !spot.around.any stop

def Spot.within (around : List Node) (spot : Spot) : Spot := ⟨spot.node, spot.around ++ around⟩

namespace Node

def part (kind : String) (field : Option String) (row column start stop : Nat) (children : List Node) : Node :=
  .mk { kind, field, point := ⟨row, column⟩, start, stop } children

def symbol (kind : String) (row column start : Nat) : Node :=
  part kind none row column start (start + kind.length) []

mutual

def spots (around : List Node) : Node → List Spot
  | .mk info children => ⟨.mk info children, around⟩ :: spotsAmong (.mk info children :: around) children

def spotsAmong (around : List Node) : List Node → List Spot
  | [] => []
  | node :: rest => spots around node ++ spotsAmong around rest

end

def nodes (root : Node) : List Node := (root.spots []).map Spot.node

/-- The nodes of a tree that lie in no node of a kind, in the order of the text. The tree itself lies in nothing. -/
def outside (stop : Node → Bool) (root : Node) : List Node :=
  ((root.spots []).filter (Spot.isOutside stop)).map Spot.node

theorem spotsAmong_eq (around nodes : List Node) : spotsAmong around nodes = nodes.flatMap (spots around) := by
  induction nodes with
  | nil => rfl
  | cons node rest ih => rw [spotsAmong, ih, List.flatMap_cons]

/-- What lies around a tree lies around each node of it, behind the nodes of the tree. -/
theorem spots_eq_map (around : List Node) (node : Node) :
    spots around node = (spots [] node).map (Spot.within around) := by
  induction node generalizing around with
  | mk info children ih =>
    have below (above : List Node) : children.flatMap (spots above) =
        children.flatMap fun child => (spots [] child).map (Spot.within above) :=
      List.flatMap_congr fun child member => ih child member above
    have nested : Spot.within around ∘ Spot.within [.mk info children] =
        Spot.within (.mk info children :: around) := by
      funext spot
      simp [Spot.within]
    rw [spots, spots, spotsAmong_eq, spotsAmong_eq, below, below, List.map_cons, List.map_flatMap]
    simp only [List.map_map, nested]
    rfl

section Walks

variable {stop : Node → Bool} {node root : Node}

theorem isOutside_within (stop : Node → Bool) (around : List Node) :
    Spot.isOutside stop ∘ Spot.within around = fun spot => spot.isOutside stop && !around.any stop := by
  funext spot
  simp [Spot.isOutside, Spot.within]

theorem outside_eq (node : Node) :
    node.outside stop = node :: if stop node then [] else node.children.flatMap (outside stop) := by
  cases node with
  | mk info children =>
    have first : Spot.isOutside stop ⟨.mk info children, []⟩ = true := rfl
    have below (child : Node) : ((spots [.mk info children] child).filter (Spot.isOutside stop)).map Spot.node =
        if stop (.mk info children) then [] else child.outside stop := by
      rw [spots_eq_map, List.filter_map, isOutside_within, List.map_map, outside]
      by_cases kind : stop (.mk info children) = true
      · simp [kind]
      · simp only [List.any_cons, kind, List.any_nil, Bool.or_false, Bool.not_false, Bool.and_true,
          Bool.false_eq_true, if_false]
        rfl
    rw [outside, spots, List.filter_cons_of_pos first, List.map_cons, spotsAmong_eq, List.filter_flatMap,
      List.map_flatMap]
    simp only [below]
    by_cases kind : stop (.mk info children) = true
    · simp [kind]
    · simp only [kind, Bool.false_eq_true, if_false]
      rfl

theorem nodes_eq (node : Node) : node.nodes = node :: node.children.flatMap nodes := by
  have all : nodes = outside fun _ => false := by
    funext root
    have anywhere : Spot.isOutside (fun _ => false) = fun _ => true := by
      funext spot
      simp [Spot.isOutside]
    rw [nodes, outside, anywhere, List.filter_true]
  rw [all, outside_eq, if_neg Bool.false_ne_true]

theorem self_mem_nodes (root : Node) : root ∈ root.nodes := by
  rw [nodes_eq]
  exact List.mem_cons_self

theorem mem_nodes_of_child {child : Node} (member : child ∈ root.children) (below : node ∈ child.nodes) :
    node ∈ root.nodes := by
  rw [nodes_eq]
  exact List.mem_cons_of_mem _ (List.mem_flatMap_of_mem member below)

theorem outside_sublist (stop : Node → Bool) (root : Node) : (root.outside stop).Sublist root.nodes :=
  List.filter_sublist.map _

/-- If a node is of a kind, then so is one that lies in no other of that kind. -/
theorem exists_outside (member : node ∈ root.nodes) (kind : stop node = true) :
    ∃ top ∈ root.outside stop, stop top = true := by
  induction root with
  | mk info children ih =>
    by_cases whole : stop (.mk info children) = true
    · refine ⟨_, ?_, whole⟩
      rw [outside_eq]
      exact List.mem_cons_self
    · rw [nodes_eq, List.mem_cons] at member
      obtain rfl | member := member
      · exact absurd kind whole
      · obtain ⟨child, listed, below⟩ := List.mem_flatMap.mp member
        obtain ⟨top, reached, found⟩ := ih child listed below
        refine ⟨top, ?_, found⟩
        rw [outside_eq, if_neg whole]
        exact List.mem_cons_of_mem _ (List.mem_flatMap_of_mem listed reached)

end Walks

end Node

end UnitCache.Syntax
