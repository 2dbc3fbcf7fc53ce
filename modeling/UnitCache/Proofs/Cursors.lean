import Mathlib.Data.List.TakeWhile
import UnitCache.C.TreeUnit
import UnitCache.Proofs.Lines
import UnitCache.Proofs.Slices
/-!
Where a cursor may stand. The name before a cursor is cut out of its line by byte offsets: the end is taken back to the
end of a character, and the start is one byte behind the start of the last character that is not of a name. That byte
is within this character if it takes more than one, and the cut is then an error that nothing catches. A line that has
no character and no end of its own is none of the lines that are looked for.
-/
namespace UnitCache.C

open Clang (bytes takeBytes? dropBytes?)

/-- The last place up to one at which a character of a text ends, or its first one starts. -/
def boundaryUpTo (text : List Char) : Nat → Nat
  | 0 => 0
  | place + 1 => if (takeBytes? (place + 1) text).isSome then place + 1 else boundaryUpTo text place

def lastOutside? : List Char → Option Nat
  | [] => none
  | c :: text =>
    match lastOutside? text with
    | some place => some (c.utf8Size + place)
    | none => if isNameChar c then none else some 0

def sliceName? (place : Nat) (text : List Char) : Option (List Char) := do
  let before ← takeBytes? (boundaryUpTo text (min place (bytes text))) text
  dropBytes? ((lastOutside? before).elim 0 (· + 1)) before

/-- The name at the end of a text starts behind a character of more than one byte. -/
def EndsBehindWide (text : List Char) : Prop :=
  ∃ before c name, text = before ++ c :: name ∧ isNameChar c = false ∧ 1 < c.utf8Size ∧
    ∀ d ∈ name, isNameChar d = true

section Names

variable {text before name : List Char} {c : Char}

theorem name_cases (text : List Char) : (∀ c ∈ text, isNameChar c = true) ∨
    ∃ before c name, text = before ++ c :: name ∧ isNameChar c = false ∧ ∀ d ∈ name, isNameChar d = true := by
  induction text with
  | nil => exact .inl nofun
  | cons c text ih =>
    obtain all | ⟨before, d, name, rfl, outside, all⟩ := ih
    · cases kind : isNameChar c with
      | true => exact .inl (List.forall_mem_cons.mpr ⟨kind, all⟩)
      | false => exact .inr ⟨[], c, text, rfl, kind, all⟩
    · exact .inr ⟨c :: before, d, name, rfl, outside, all⟩

theorem nameAtEnd_of_forall (all : ∀ c ∈ text, isNameChar c = true) : nameAtEnd text = .found text := by
  have none : text.reverse.dropWhile isNameChar = [] := List.dropWhile_eq_nil_iff.mpr (by simpa using all)
  rw [nameAtEnd, none]

theorem nameAtEnd_append (outside : isNameChar c = false) (all : ∀ d ∈ name, isNameChar d = true) :
    nameAtEnd (before ++ c :: name) = if c.utf8Size = 1 then .found name else .unsplittable := by
  have all : ∀ d ∈ name.reverse, isNameChar d = true := by simpa using all
  have backwards : (before ++ c :: name).reverse = name.reverse ++ c :: before.reverse := by simp
  simp [nameAtEnd, backwards, List.dropWhile_append_of_pos all, List.takeWhile_append_of_pos all, outside]

theorem EndsBehindWide.unsplittable (wide : EndsBehindWide text) : nameAtEnd text = .unsplittable := by
  obtain ⟨before, c, name, rfl, outside, size, all⟩ := wide
  rw [nameAtEnd_append outside all, if_neg (by omega)]

/-- A name is found unless it starts behind a character of more than one byte. -/
theorem nameAtEnd_cases (text : List Char) :
    (EndsBehindWide text ∧ nameAtEnd text = .unsplittable) ∨
      (¬EndsBehindWide text ∧ ∃ name, nameAtEnd text = .found name) := by
  have found {name : List Char} (same : nameAtEnd text = .found name) : ¬EndsBehindWide text := fun wide => by
    rw [wide.unsplittable] at same
    cases same
  obtain all | ⟨before, c, name, rfl, outside, all⟩ := name_cases text
  · have same := nameAtEnd_of_forall all
    exact .inr ⟨found same, text, same⟩
  · have same : nameAtEnd (before ++ c :: name) = if c.utf8Size = 1 then .found name else .unsplittable :=
      nameAtEnd_append outside all
    by_cases narrow : c.utf8Size = 1
    · rw [if_pos narrow] at same
      exact .inr ⟨found same, name, same⟩
    · rw [if_neg narrow] at same
      have := c.utf8Size_pos
      exact .inl ⟨⟨before, c, name, rfl, outside, by omega, all⟩, same⟩

end Names

section Slices

variable {text name : List Char} {place : Nat}

theorem bytes_withinBytes_le (place : Nat) (text : List Char) : bytes (withinBytes place text) ≤ place := by
  induction text generalizing place with
  | nil => exact Nat.zero_le _
  | cons c text ih =>
    unfold withinBytes
    split
    next fits =>
      have rest := ih (place - c.utf8Size)
      simp only [bytes]
      omega
    next => exact Nat.zero_le _

theorem withinBytes_starts (place : Nat) (text : List Char) : withinBytes place text <+: text := by
  induction text generalizing place with
  | nil => exact List.prefix_rfl
  | cons c text ih =>
    unfold withinBytes
    split
    next => exact (List.prefix_cons_inj c).mpr (ih _)
    next => exact ⟨_, rfl⟩

theorem withinBytes_eq_of_le {fewer : Nat} (fits : bytes (withinBytes place text) ≤ fewer) (less : fewer ≤ place) :
    withinBytes place text = withinBytes fewer text := by
  induction text generalizing place fewer with
  | nil => rfl
  | cons c text ih =>
    by_cases room : c.utf8Size ≤ place
    · simp only [withinBytes, room, if_true, bytes] at fits
      have same : withinBytes (place - c.utf8Size) text = withinBytes (fewer - c.utf8Size) text :=
        ih (by omega) (by omega)
      simp only [withinBytes, room, show c.utf8Size ≤ fewer by omega, if_true, same]
    · simp only [withinBytes, room, show ¬c.utf8Size ≤ fewer by omega, if_false]

theorem takeBytes?_eq (place : Nat) (text : List Char) : takeBytes? place text =
    if bytes (withinBytes place text) = place then some (withinBytes place text) else none := by
  induction text generalizing place with
  | nil => cases place <;> rfl
  | cons c text ih =>
    cases place with
    | zero => simp [takeBytes?, withinBytes, c.utf8Size_pos.ne', bytes]
    | succ place =>
      by_cases room : c.utf8Size ≤ place + 1
      · have same : c.utf8Size + bytes (withinBytes (place + 1 - c.utf8Size) text) = place + 1 ↔
            bytes (withinBytes (place + 1 - c.utf8Size) text) = place + 1 - c.utf8Size := by omega
        simp only [takeBytes?, withinBytes, room, if_true, ih, bytes, same]
        split <;> rfl
      · simp [takeBytes?, withinBytes, room, bytes]

theorem boundaryUpTo_eq (place : Nat) (text : List Char) : boundaryUpTo text place = bytes (withinBytes place text) := by
  induction place with
  | zero => exact (Nat.le_zero.mp (bytes_withinBytes_le 0 text)).symm
  | succ place ih =>
    have bound := bytes_withinBytes_le (place + 1) text
    rw [boundaryUpTo, takeBytes?_eq]
    by_cases full : bytes (withinBytes (place + 1) text) = place + 1
    · simp [full]
    · have same : withinBytes (place + 1) text = withinBytes place text :=
        withinBytes_eq_of_le (by omega) (Nat.le_succ place)
      rw [if_neg full, Option.isSome_none, if_neg Bool.false_ne_true, ih, same]

theorem withinBytes_min (place : Nat) (text : List Char) :
    withinBytes (min place (bytes text)) text = withinBytes place text := by
  have bound := bytes_withinBytes_le place text
  obtain ⟨rest, whole⟩ := withinBytes_starts place text
  have short : bytes (withinBytes place text) + bytes rest = bytes text := by
    rw [← Clang.bytes_append, whole]
  exact (withinBytes_eq_of_le (by omega) (Nat.min_le_left ..)).symm

theorem lastOutside?_of_forall (all : ∀ c ∈ text, isNameChar c = true) : lastOutside? text = none := by
  induction text with
  | nil => rfl
  | cons c text ih =>
    obtain ⟨inside, all⟩ := List.forall_mem_cons.mp all
    simp [lastOutside?, ih all, inside]

theorem lastOutside?_append {c : Char} (outside : isNameChar c = false) (all : ∀ d ∈ name, isNameChar d = true)
    (before : List Char) : lastOutside? (before ++ c :: name) = some (bytes before) := by
  induction before with
  | nil => simp [lastOutside?, lastOutside?_of_forall all, outside, bytes]
  | cons d before ih => simp [lastOutside?, ih, bytes]

/-- A cut one byte behind the start of a character is behind this character if it takes one byte, and an error if it
takes more. -/
theorem dropBytes?_succ (before : List Char) (c : Char) (name : List Char) :
    dropBytes? (bytes before + 1) (before ++ c :: name) = if c.utf8Size = 1 then some name else none := by
  have := c.utf8Size_pos
  rw [Clang.dropBytes?_add, dropBytes?]
  by_cases narrow : c.utf8Size = 1
  · cases name <;> simp [narrow, dropBytes?]
  · rw [if_neg narrow, if_neg (by omega)]

/-- By byte offsets, the name is cut out that is found character by character, and where none is found the cut is an
error. -/
theorem nameAtEnd_withinBytes (place : Nat) (text : List Char) :
    nameAtEnd (withinBytes place text) = (sliceName? place text).elim .unsplittable .found := by
  have taken : takeBytes? (boundaryUpTo text (min place (bytes text))) text = some (withinBytes place text) := by
    obtain ⟨rest, whole⟩ := withinBytes_starts place text
    have cut := Clang.takeBytes?_append (withinBytes place text) rest
    rwa [whole, ← withinBytes_min, ← boundaryUpTo_eq, withinBytes_min] at cut
  rw [sliceName?, taken, Option.bind_eq_bind, Option.bind_some]
  obtain all | ⟨before, c, name, same, outside, all⟩ := name_cases (withinBytes place text)
  · rw [lastOutside?_of_forall all, nameAtEnd_of_forall all]
    cases withinBytes place text <;> rfl
  · rw [same, lastOutside?_append outside all, nameAtEnd_append outside all, Option.elim_some, dropBytes?_succ]
    split <;> rfl

end Slices

section Cursors

/-- How many lines a cursor may stand in: each that ends, and one more if a character stands behind the last end. -/
def lineCount (source : String) : Nat :=
  source.toList.count '\n' + if source.toList.getLast?.any (· != '\n') then 1 else 0

def IsLine (source : String) (line : UInt32) (text : List Char) : Prop :=
  line ≠ 0 ∧ (Text.linesFrom [] source.toList)[line.toNat - 1]? = some text

variable {source : String} {line column : UInt32} {text : List Char}

theorem length_lines (source : String) : (Text.linesFrom [] source.toList).length = lineCount source := by
  rw [Text.length_linesFrom, lineCount]
  cases last : source.toList.getLast? with
  | none => rfl
  | some c => cases other : c != '\n' <;> simp [other]

theorem typedName_cases (source : String) (line column : UInt32) :
    ((line = 0 ∨ column = 0 ∨ lineCount source < line.toNat) ∧
      ∃ error, typedName source line column = .refused error) ∨
    (column ≠ 0 ∧ ∃ text, IsLine source line text ∧
      typedName source line column = nameAtEnd (withinBytes (column.toNat - 1) text)) := by
  by_cases noPlace : line = 0 ∨ column = 0
  · refine .inl ⟨noPlace.imp_right .inl, .badPosition line column, ?_⟩
    rw [typedName, if_pos (by simpa using noPlace)]
  · obtain ⟨first, behind⟩ : line ≠ 0 ∧ column ≠ 0 := not_or.mp noPlace
    cases known : (Text.linesFrom [] source.toList)[line.toNat - 1]? with
    | none =>
      have short : lineCount source ≤ line.toNat - 1 := length_lines source ▸ List.getElem?_eq_none_iff.mp known
      have positive : line.toNat ≠ 0 := fun zero => first (UInt32.toNat_inj.mp zero)
      refine .inl ⟨.inr (.inr (by omega)), .pastEnd line, ?_⟩
      rw [typedName, if_neg (by simpa using noPlace), known]
    | some text =>
      refine .inr ⟨behind, text, ⟨first, known⟩, ?_⟩
      rw [typedName, if_neg (by simpa using noPlace), known]

theorem IsLine.not_refused (known : IsLine source line text) (behind : column ≠ 0) :
    ¬(line = 0 ∨ column = 0 ∨ lineCount source < line.toNat) := by
  have inside := (List.getElem?_eq_some_iff.mp known.2).1
  have positive : line.toNat ≠ 0 := fun zero => known.1 (UInt32.toNat_inj.mp zero)
  rw [length_lines] at inside
  rintro (first | front | past)
  · exact known.1 first
  · exact behind front
  · omega

theorem IsLine.exists_iff (known : IsLine source line text) {holds : List Char → Prop} :
    (∃ other, IsLine source line other ∧ holds other) ↔ holds text :=
  ⟨fun ⟨_, also, held⟩ => Option.some.inj (also.2.symm.trans known.2) ▸ held, fun held => ⟨text, known, held⟩⟩

/-- Where a completion succeeds, fails and panics. It fails at no line, at no column and behind the last line with
a character or an end of its own. In a line it panics if and only if the name before the cursor starts behind a
character of more than one byte, and succeeds otherwise, wherever in a character or behind the line the column is. -/
theorem completion_at_every_cursor (unit : TreeUnit) (line column : UInt32) :
    ((∃ error, unit.complete unit.path line column = .failed error) ↔
      line = 0 ∨ column = 0 ∨ lineCount unit.contents.source < line.toNat) ∧
    (unit.complete unit.path line column = .panicked ↔
      column ≠ 0 ∧ ∃ text, IsLine unit.contents.source line text ∧
        EndsBehindWide (withinBytes (column.toNat - 1) text)) ∧
    ((∃ candidates, unit.complete unit.path line column = .candidates candidates) ↔
      column ≠ 0 ∧ ∃ text, IsLine unit.contents.source line text ∧
        ¬EndsBehindWide (withinBytes (column.toNat - 1) text)) := by
  rw [TreeUnit.complete, if_pos BEq.rfl]
  obtain ⟨nowhere, error, same⟩ | ⟨behind, text, known, same⟩ := typedName_cases unit.contents.source line column
  · have away (text : List Char) (behind : column ≠ 0) : ¬IsLine unit.contents.source line text :=
      fun known => known.not_refused behind nowhere
    rw [same]
    refine ⟨⟨fun _ => nowhere, fun _ => ⟨error, rfl⟩⟩, ⟨nofun, ?_⟩, ⟨nofun, ?_⟩⟩
    all_goals exact fun ⟨behind, text, known, _⟩ => absurd known (away text behind)
  · rw [known.exists_iff, known.exists_iff, eq_false (known.not_refused behind), same]
    obtain ⟨wide, cut⟩ | ⟨narrow, name, cut⟩ := nameAtEnd_cases (withinBytes (column.toNat - 1) text)
    · simp [cut, behind, wide]
    · simp [cut, behind, narrow]

/-- A cursor behind a character of two bytes, one in the line behind the last end, and one in a source of nothing. -/
theorem cursors_can_panic_and_be_refused :
    let unit (source : String) : TreeUnit := ⟨⟨"a.c"⟩, [], ⟨source, [], []⟩⟩
    (unit "int f(void); // é\n").complete ⟨"a.c"⟩ 1 19 = .panicked ∧
      (unit "int f(void);\n").complete ⟨"a.c"⟩ 2 1 = .failed (.pastEnd 2) ∧
      (unit "").complete ⟨"a.c"⟩ 1 1 = .failed (.pastEnd 1) := by
  decide

end Cursors

end UnitCache.C
