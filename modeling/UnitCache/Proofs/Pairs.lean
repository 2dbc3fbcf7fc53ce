import Mathlib.Data.List.Chain
import Mathlib.Data.List.Infix
import UnitCache.Clang.CompletionString

namespace UnitCache.Clang

theorem not_infix_pair {first second : Char} {text : List Char} :
    ¬[first, second] <:+: text ↔ text.IsChain fun left right => ¬(left = first ∧ right = second) := by
  rw [List.isChain_iff_forall_rel_of_append_cons_cons]
  constructor
  · rintro absent a b before behind rfl ⟨rfl, rfl⟩
    exact absent ⟨before, behind, by simp⟩
  · rintro apart ⟨before, behind, rfl⟩
    exact apart (List.append_assoc before [first, second] behind) ⟨rfl, rfl⟩

variable {first second : Char}

/-- A text is cut where the two characters first stand side by side, or they stand so nowhere. -/
theorem cutFrom_cases (first second : Char) (before text : List Char) :
    (∃ inner rest, text = inner ++ first :: second :: rest ∧ ¬[first, second] <:+: inner ∧
      cutFrom first second before text = some (before.reverse ++ inner, rest)) ∨
    (¬[first, second] <:+: text ∧ cutFrom first second before text = none) := by
  simp only [not_infix_pair]
  induction before, text using cutFrom.induct first second with
  | case1 => exact .inr ⟨.nil, rfl⟩
  | case2 => exact .inr ⟨.singleton _, rfl⟩
  | case3 before c next rest here =>
    obtain ⟨rfl, rfl⟩ : c = first ∧ next = second := by simpa using here
    exact .inl ⟨[], rest, rfl, .nil, by simp [cutFrom]⟩
  | case4 before c next rest apart ih =>
    have other : ¬(c = first ∧ next = second) := by simpa using apart
    have goes_on : cutFrom first second before (c :: next :: rest) =
        cutFrom first second (c :: before) (next :: rest) := by rw [cutFrom, if_neg apart]
    rw [goes_on]
    rcases ih with ⟨inner, behind, text, free, found⟩ | ⟨free, missing⟩
    · refine .inl ⟨c :: inner, behind, by rw [text]; rfl, ?_, by simp [found]⟩
      cases inner with
      | nil => exact .singleton _
      | cons d inner =>
        cases text
        exact List.isChain_cons_cons.mpr ⟨other, free⟩
    · exact .inr ⟨List.isChain_cons_cons.mpr ⟨other, free⟩, missing⟩

theorem cutAt?_eq_none {text : List Char} (free : ¬[first, second] <:+: text) :
    cutAt? first second text = none := by
  rcases cutFrom_cases first second [] text with ⟨inner, rest, rfl, _, _⟩ | ⟨_, missing⟩
  · exact absurd ⟨inner, rest, by simp⟩ free
  · exact missing

theorem cutAt?_append {inner : List Char} (differ : first ≠ second) (free : ¬[first, second] <:+: inner)
    (rest : List Char) : cutAt? first second (inner ++ first :: second :: rest) = some (inner, rest) := by
  suffices general : ∀ before, cutFrom first second before (inner ++ first :: second :: rest) =
      some (before.reverse ++ inner, rest) from general []
  rw [not_infix_pair] at free
  induction inner with
  | nil => simp [cutFrom]
  | cons c inner ih =>
    intro before
    have shorter := ih free.tail (c :: before)
    cases inner with
    | nil =>
      have apart : ¬(c == first && first == second) = true := by simp [differ]
      simp only [List.cons_append, List.nil_append] at shorter ⊢
      rw [cutFrom, if_neg apart, shorter]
      simp
    | cons d inner =>
      have apart : ¬(c == first && d == second) = true := by simpa using (List.isChain_cons_cons.mp free).1
      simp only [List.cons_append] at shorter ⊢
      rw [cutFrom, if_neg apart, shorter]
      simp

end UnitCache.Clang
