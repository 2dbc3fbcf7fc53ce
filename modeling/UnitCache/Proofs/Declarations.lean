import UnitCache.C.Declaration
import UnitCache.Proofs.Spots

namespace UnitCache.C

open UnitCache.Syntax

theorem DeclarationKind.sameSort_refl (kind : DeclarationKind) : kind.sameSort kind = true := by cases kind <;> rfl

theorem DeclarationKind.sameSort_comm (first second : DeclarationKind) :
    first.sameSort second = second.sameSort first := by
  cases first <;> cases second <;> rfl

theorem DeclarationKind.sameSort_trans {first second third : DeclarationKind} (same : first.sameSort second = true)
    (also : second.sameSort third = true) : first.sameSort third = true := by
  cases first <;> cases second <;> cases third <;> trivial

namespace Declaration

section Same

variable {first second third : Declaration}

theorem declaresSame_iff : first.declaresSame second = true ↔
    first.name = second.name ∧ first.kind.sameSort second.kind = true := by
  simp [declaresSame]

theorem declaresSame_refl (declaration : Declaration) : declaration.declaresSame declaration = true :=
  declaresSame_iff.mpr ⟨rfl, declaration.kind.sameSort_refl⟩

theorem declaresSame_comm (first second : Declaration) : first.declaresSame second = second.declaresSame first := by
  rw [declaresSame, declaresSame, DeclarationKind.sameSort_comm, Bool.beq_comm]

theorem declaresSame_trans (same : first.declaresSame second = true) (also : second.declaresSame third = true) :
    first.declaresSame third = true := by
  rw [declaresSame_iff] at *
  exact ⟨same.1.trans also.1, DeclarationKind.sameSort_trans same.2 also.2⟩

end Same

section Firsts

variable {declaration : Declaration} {all seen rest : List Declaration}

/-- What is kept behind others is what would be kept without them, unless it declares the same as one of them. -/
theorem firstsFrom_eq (seen rest : List Declaration) :
    firstsFrom seen rest = seen.reverse ++ (firsts rest).filter fun later => !seen.any later.declaresSame := by
  induction rest generalizing seen with
  | nil => simp [firstsFrom, firsts]
  | cons first rest ih =>
    have whole : firsts (first :: rest) = first :: (firsts rest).filter fun later => !later.declaresSame first := by
      rw [firsts, firstsFrom, List.any_nil, if_neg Bool.false_ne_true, ih]
      simp
    rw [whole, firstsFrom]
    by_cases known : seen.any first.declaresSame = true
    · have implied (later : Declaration) :
          (!seen.any later.declaresSame && !later.declaresSame first) = !seen.any later.declaresSame := by
        cases same : later.declaresSame first with
        | false => simp
        | true =>
          obtain ⟨earlier, member, also⟩ := List.any_eq_true.mp known
          have reached : seen.any later.declaresSame = true :=
            List.any_eq_true.mpr ⟨earlier, member, declaresSame_trans same also⟩
          simp [reached]
      rw [if_pos known, ih, List.filter_cons_of_neg (by simpa using known), List.filter_filter]
      simp only [implied]
    · have other : (!seen.any first.declaresSame) = true := by simpa using known
      rw [if_neg known, ih, List.filter_cons, if_pos other, List.filter_filter]
      simp [Bool.and_comm]

theorem firsts_cons (first : Declaration) (rest : List Declaration) :
    firsts (first :: rest) = first :: (firsts rest).filter fun later => !later.declaresSame first := by
  have kept := firstsFrom_eq [first] rest
  simpa [firsts, firstsFrom] using kept

/-- A declaration is kept if and only if it is the first of those that declare the same. -/
theorem mem_firsts : declaration ∈ firsts all ↔ all.find? declaration.declaresSame = some declaration := by
  induction all with
  | nil => simp [firsts, firstsFrom]
  | cons first rest ih =>
    rw [firsts_cons, List.mem_cons, List.mem_filter, ih, List.find?_cons]
    cases same : declaration.declaresSame first with
    | true => simp [eq_comm]
    | false =>
      have other : declaration ≠ first := by
        intro equal
        rw [equal, declaresSame_refl] at same
        cases same
      simp [other]

theorem exists_mem_firsts (member : declaration ∈ all) :
    ∃ kept ∈ firsts all, declaration.declaresSame kept = true := by
  have known : (all.find? declaration.declaresSame).isSome := by
    rw [List.find?_isSome]
    exact ⟨declaration, member, declaresSame_refl declaration⟩
  obtain ⟨kept, found⟩ := Option.isSome_iff_exists.mp known
  have same := List.find?_some found
  refine ⟨kept, mem_firsts.mpr ?_, same⟩
  have alike : kept.declaresSame = declaration.declaresSame := by
    funext other
    rw [Bool.eq_iff_iff]
    have back : kept.declaresSame declaration = true := by rwa [declaresSame_comm]
    exact ⟨declaresSame_trans same, declaresSame_trans back⟩
  rw [alike, found]

theorem mem_of_mem_firsts (member : declaration ∈ firsts all) : declaration ∈ all :=
  List.mem_of_find?_eq_some (mem_firsts.mp member)

theorem firsts_distinct (all : List Declaration) :
    (firsts all).Pairwise fun first second => first.declaresSame second = false := by
  induction all with
  | nil => exact List.Pairwise.nil
  | cons first rest ih =>
    rw [firsts_cons]
    apply List.Pairwise.cons
    · intro later member
      have other : later.declaresSame first = false := by simpa using (List.mem_filter.mp member).2
      rwa [declaresSame_comm]
    · exact ih.filter _

theorem firsts_ordered (all : List Declaration) : (firsts all).Pairwise fun first second =>
    all.findIdx first.declaresSame < all.findIdx second.declaresSame := by
  induction all with
  | nil => exact List.Pairwise.nil
  | cons first rest ih =>
    have later {declaration : Declaration}
        (member : declaration ∈ (firsts rest).filter fun later => !later.declaresSame first) :
        (first :: rest).findIdx declaration.declaresSame = rest.findIdx declaration.declaresSame + 1 := by
      have other : declaration.declaresSame first = false := by simpa using (List.mem_filter.mp member).2
      simp [List.findIdx_cons, other]
    have ahead : (first :: rest).findIdx first.declaresSame = 0 := by
      simp [List.findIdx_cons, declaresSame_refl]
    rw [firsts_cons]
    apply List.Pairwise.cons
    · intro declaration member
      rw [ahead, later member]
      exact Nat.succ_pos _
    · apply (ih.filter _).imp_of_mem
      intro second third member also less
      rw [later member, later also]
      exact Nat.succ_lt_succ less

end Firsts

end Declaration

namespace Outline

variable {outline : Outline} {node : Node}

theorem declared_of_isBlock (outline : Outline) (block : isBlock node = true) : outline.declared node = none := by
  have kind : node.kind = "compound_statement" := by simpa [isBlock] using block
  simp [declared, kind]

theorem declarationsAmong_eq (outline : Outline) (nodes : List Node) :
    outline.declarationsAmong nodes = nodes.flatMap outline.declarationsIn := by
  induction nodes with
  | nil => rfl
  | cons node rest ih => rw [declarationsAmong, ih, List.flatMap_cons]

/-- The declarations of a tree are those of its nodes that lie in no block, in the order of the text. -/
theorem declarationsIn_eq (outline : Outline) (root : Node) :
    outline.declarationsIn root = (root.outside isBlock).filterMap outline.declared := by
  induction root with
  | mk info children ih =>
    rw [Node.outside_eq, declarationsIn]
    by_cases block : isBlock (.mk info children) = true
    · rw [if_pos block, if_pos block, List.filterMap_cons_none (declared_of_isBlock outline block)]
      rfl
    · rw [if_neg block, if_neg block, declarationsAmong_eq, List.filterMap_cons, List.filterMap_flatMap,
        List.flatMap_congr ih]
      cases outline.declared (.mk info children) <;> rfl

end Outline

end UnitCache.C
