import Mathlib.Data.List.Perm.Basic
import Mathlib.Tactic.Common
import UnitCache.Codec.Query
/-!
What records are read from. The members of an object may stand in any order and among others, and some may be left out:
what is given for a field is what stands under its name. Values that are read as they were written are read so in lists,
where they may be null, and as fields.
-/
namespace UnitCache

theorem mapM_eq_some {α β : Type} {partly : α → Option β} {total : α → β} {items : List α}
    (defined : ∀ item ∈ items, partly item = some (total item)) : items.mapM partly = some (items.map total) := by
  induction items with
  | nil => rfl
  | cons item items ih =>
    have others := ih fun other inside => defined other (List.mem_cons_of_mem _ inside)
    rw [List.mapM_cons, defined item List.mem_cons_self, others]
    rfl

namespace Json

section Members

variable {all members : List (String × Json)} {omits : String → Bool}

/-- Members some of which are left out, in any order and among others. -/
def Lists (all : List (String × Json)) (omits : String → Bool) (members : List (String × Json)) : Prop :=
  ∃ others : List (String × Json), (∀ other ∈ others, other.1 ∉ all.map Prod.fst) ∧
    members.Perm ((all.filter fun member => !omits member.1) ++ others)

theorem lists_self (all : List (String × Json)) : Lists all (fun _ => false) all := ⟨[], by simp, by simp⟩

def given (omits : String → Bool) (member : String × Json) : Field :=
  if omits member.1 then .missing else .given member.2

theorem filter_name (distinct : (all.map Prod.fst).Nodup) {member : String × Json} (inside : member ∈ all) :
    (all.filter fun other => other.1 == member.1) = [member] := by
  induction all with
  | nil => cases inside
  | cons first all ih =>
    obtain ⟨fresh, distinct⟩ := List.nodup_cons.mp distinct
    rcases List.mem_cons.mp inside with rfl | inside
    · have none : (all.filter fun other => other.1 == member.1) = [] := by
        refine List.filter_eq_nil_iff.mpr fun other among same => fresh ?_
        rw [← beq_iff_eq.mp same]
        exact List.mem_map_of_mem among
      simp [none]
    · have apart : ¬(first.1 == member.1) = true := by
        intro same
        apply fresh
        rw [beq_iff_eq.mp same]
        exact List.mem_map_of_mem inside
      rw [List.filter_cons, if_neg apart, ih distinct inside]

theorem member?_of_lists (distinct : (all.map Prod.fst).Nodup) (lists : Lists all omits members)
    {member : String × Json} (inside : member ∈ all) :
    member? (members.map fun member => (some member.1, member.2)) member.1 = some (given omits member) := by
  obtain ⟨others, foreign, order⟩ := lists
  have none : (others.filter fun other => other.1 == member.1) = [] := by
    refine List.filter_eq_nil_iff.mpr fun other among same => foreign other among ?_
    rw [beq_iff_eq.mp same]
    exact List.mem_map_of_mem inside
  have found : (members.filter fun other => other.1 == member.1).Perm
      ([member].filter fun member => !omits member.1) := by
    have all := order.filter fun other => other.1 == member.1
    rwa [List.filter_append, none, List.append_nil, List.filter_comm, filter_name distinct inside] at all
  have named : ((members.map fun member => (some member.1, member.2)).filter fun other => other.1 == some member.1) =
      (members.filter fun other => other.1 == member.1).map fun member => (some member.1, member.2) := by
    rw [List.filter_map]
    rfl
  rw [member?, named, given]
  cases out : omits member.1 with
  | true =>
    have empty : (members.filter fun other => other.1 == member.1) = [] := by simpa [out] using found
    simp [empty]
  | false =>
    have one : (members.filter fun other => other.1 == member.1) = [member] := by simpa [out] using found
    simp [one]

theorem fields?_of_lists {names : List String} (lists : Lists all omits members) (same : all.map Prod.fst = names)
    (distinct : names.Nodup) : fields? names (ofMembers members) = some (all.map (given omits)) := by
  subst same
  have spelled : ((members.map fun member => (some member.1, member.2)).all fun member => member.1.isSome) = true := by
    simp
  rw [ofMembers, fields?, if_pos spelled, List.mapM_map]
  exact mapM_eq_some fun member inside => member?_of_lists distinct lists inside

theorem fields?_ofMembers {names : List String} (same : members.map Prod.fst = names) (distinct : names.Nodup) :
    fields? names (ofMembers members) = some (members.map fun member => .given member.2) :=
  fields?_of_lists (lists_self members) same distinct

end Members

section Values

variable {α : Type} {encode : α → Json} {decode : Json → Option α}

@[simp] theorem text?_ofString (text : String) : text? (ofString text) = some text := rfl

@[simp] theorem name?_ofString (text : String) : name? (ofString text) = some text := rfl

@[simp] theorem word?_ofWord (value : UInt32) : word? (ofWord value) = some value := by
  simp [word?, ofWord, naturalBelow?, value.toNat_lt_size]

@[simp] theorem longWord?_ofLongWord (value : UInt64) : longWord? (ofLongWord value) = some value := by
  simp [longWord?, ofLongWord, naturalBelow?, value.toNat_lt_size]

@[simp] theorem path?_toJson (path : Path) : Path.ofJson? path.toJson = some path := rfl

theorem list?_ofList (reads : ∀ value, decode (encode value) = some value) (values : List α) :
    list? decode (ofList encode values) = some values := by
  have each : values.mapM (decode ∘ encode) = some (values.map id) := mapM_eq_some fun value _ => reads value
  rwa [List.map_id, ← List.mapM_map] at each

theorem orNull?_ofOption (reads : ∀ value, decode (encode value) = some value) (null : decode .null = none)
    (value : Option α) : orNull? decode (ofOption encode value) = some value := by
  cases value with
  | none => rfl
  | some value =>
    have read := reads value
    simp only [ofOption]
    cases encoded : encode value with
    | null => simp [encoded, null] at read
    | _ => simpa [orNull?, encoded] using read

theorem optional_ofOption (reads : ∀ value, decode (encode value) = some value) (null : decode .null = none)
    (value : Option α) : (Field.given (ofOption encode value)).optional decode = some value := by
  have read := orNull?_ofOption reads null value
  cases encoded : ofOption encode value <;> simpa [Field.optional, orNull?, encoded] using read

end Values

end Json

end UnitCache
