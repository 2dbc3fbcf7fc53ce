import Mathlib.Tactic.Common
import UnitCache.PathMap

namespace UnitCache.PathMap

variable {α : Type}

theorem get?_congr (map : PathMap α) {left right : Path} (same : (left == right) = true) :
    map.get? left = map.get? right := by
  have found : (fun entry : Path × α => entry.1 == left) = fun entry => entry.1 == right := by
    funext entry
    rw [Bool.eq_iff_iff]
    exact ⟨fun first => BEq.trans first same, fun first => BEq.trans first (BEq.symm same)⟩
  simp only [get?, found]

theorem contains_eq_isSome (map : PathMap α) (path : Path) : map.contains path = (map.get? path).isSome := by
  rw [get?, Option.isSome_map, Bool.eq_iff_iff, List.find?_isSome, contains, List.any_eq_true]

theorem contains_congr (map : PathMap α) {left right : Path} (same : (left == right) = true) :
    map.contains left = map.contains right := by
  rw [contains_eq_isSome, contains_eq_isSome, map.get?_congr same]

theorem entries_eq_nil {map : PathMap α} (none_there : ∀ path, map.contains path = false) : map.entries = [] := by
  cases entries : map.entries with
  | nil => rfl
  | cons entry rest =>
    have there : map.contains entry.1 = true := by simp [contains, entries]
    rw [none_there] at there
    cases there

/-- Wherever a value is put among the entries, its path finds it there, and the other paths what they found before. -/
private theorem find?_place (path other : Path) (value : α) (entries : List (Path × α)) :
    ((place path value entries).find? fun entry => entry.1 == other).map Prod.snd =
      if path == other then some value else (entries.find? fun entry => entry.1 == other).map Prod.snd := by
  induction entries with
  | nil => by_cases same : (path == other) = true <;> simp [place, same]
  | cons entry rest ih =>
    by_cases here : (entry.1 == path) = true
    · have moved : (entry.1 == other) = (path == other) := by
        rw [Bool.eq_iff_iff]
        exact ⟨fun found => BEq.trans (BEq.symm here) found, fun found => BEq.trans here found⟩
      by_cases same : (path == other) = true <;> simp [place, here, moved, same]
    · by_cases found : (entry.1 == other) = true
      · have apart : ¬(path == other) = true := fun same => here (BEq.trans found (BEq.symm same))
        simp [place, here, found, apart]
      · simpa [place, here, found] using ih

theorem get?_insert (map : PathMap α) (path other : Path) (value : α) :
    (map.insert path value).get? other = if path == other then some value else map.get? other :=
  find?_place path other value map.entries

theorem get?_erase (map : PathMap α) (path other : Path) :
    (map.erase path).get? other = if path == other then none else map.get? other := by
  rw [get?, erase, List.find?_filter]
  by_cases same : (path == other) = true
  · rw [if_pos same, Option.map_eq_none_iff, List.find?_eq_none]
    intro entry _
    have moved : (entry.1 == other) = (entry.1 == path) := by
      rw [Bool.eq_iff_iff]
      exact ⟨fun found => BEq.trans found (BEq.symm same), fun found => BEq.trans found same⟩
    simp [moved]
  · rw [if_neg same, get?]
    congr 2
    funext entry
    by_cases found : (entry.1 == other) = true
    · have apart : ¬(entry.1 == path) = true := fun here => same (BEq.trans (BEq.symm here) found)
      simp [found, apart]
    · simp [found]

theorem contains_insert (map : PathMap α) (path other : Path) (value : α) :
    (map.insert path value).contains other = (path == other || map.contains other) := by
  rw [contains_eq_isSome, contains_eq_isSome, get?_insert]
  cases path == other <;> rfl

theorem contains_erase (map : PathMap α) (path other : Path) :
    (map.erase path).contains other = (!(path == other) && map.contains other) := by
  rw [contains_eq_isSome, contains_eq_isSome, get?_erase]
  cases path == other <;> rfl

def keys (map : PathMap α) : List Path := map.entries.map Prod.fst

/-- No two keys are spellings of one path. -/
def Distinct (map : PathMap α) : Prop := map.keys.Pairwise fun left right => (left == right) = false

private theorem keys_place (path : Path) (value : α) (entries : List (Path × α)) :
    (place path value entries).map Prod.fst =
      if entries.any fun entry => entry.1 == path then entries.map Prod.fst else entries.map Prod.fst ++ [path] := by
  induction entries with
  | nil => rfl
  | cons entry rest ih =>
    by_cases here : (entry.1 == path) = true
    · simp [place, here]
    · rw [place, if_neg here, List.map_cons, ih, List.any_cons, Bool.eq_false_iff.mpr here, Bool.false_or,
        List.map_cons]
      split <;> rfl

theorem keys_insert (map : PathMap α) (path : Path) (value : α) :
    (map.insert path value).keys = if map.contains path then map.keys else map.keys ++ [path] :=
  keys_place path value map.entries

theorem keys_erase (map : PathMap α) (path : Path) :
    (map.erase path).keys = map.keys.filter fun key => !(key == path) := by
  rw [keys, erase, keys, List.filter_map]
  rfl

theorem contains_iff_keys (map : PathMap α) (path : Path) :
    map.contains path = true ↔ ∃ key ∈ map.keys, (key == path) = true := by
  simp [contains, keys]

theorem length_keys (map : PathMap α) : map.keys.length = map.size := List.length_map ..

theorem mem_of_get? {map : PathMap α} {path : Path} {value : α} (found : map.get? path = some value) :
    ∃ key, (key, value) ∈ map.entries ∧ (key == path) = true := by
  obtain ⟨⟨key, _⟩, first, rfl⟩ := Option.map_eq_some_iff.mp found
  have same := List.find?_some first
  exact ⟨key, List.mem_of_find?_eq_some first, same⟩

theorem get?_of_mem {map : PathMap α} (distinct : map.Distinct) {key : Path} {value : α}
    (inside : (key, value) ∈ map.entries) : map.get? key = some value := by
  obtain ⟨entries⟩ := map
  rw [Distinct, keys, List.pairwise_map] at distinct
  rw [get?]
  induction entries with
  | nil => cases inside
  | cons entry rest ih =>
    obtain ⟨apart, distinct⟩ := List.pairwise_cons.mp distinct
    rcases List.mem_cons.mp inside with rfl | later
    · simp
    · rw [List.find?_cons, apart _ later]
      exact ih distinct later

theorem distinct_insert {map : PathMap α} (distinct : map.Distinct) (path : Path) (value : α) :
    (map.insert path value).Distinct := by
  rw [Distinct, keys_insert]
  split
  next => exact distinct
  next absent =>
    refine List.pairwise_append.mpr ⟨distinct, List.pairwise_singleton .., fun key inside other here => ?_⟩
    rw [List.mem_singleton.mp here, Bool.eq_false_iff]
    exact fun same => absent ((contains_iff_keys map path).mpr ⟨key, inside, same⟩)

theorem distinct_erase {map : PathMap α} (distinct : map.Distinct) (path : Path) : (map.erase path).Distinct := by
  rw [Distinct, keys_erase]
  exact distinct.filter _

theorem size_insert {map : PathMap α} {path : Path} (absent : map.get? path = none) (value : α) :
    (map.insert path value).size = map.size + 1 := by
  have missing : map.contains path = false := by rw [contains_eq_isSome, absent]; rfl
  rw [← length_keys, ← length_keys, keys_insert, missing]
  exact List.length_append

private theorem length_filter_apart {keys : List Path}
    (distinct : keys.Pairwise fun left right => (left == right) = false) {path key : Path} (inside : key ∈ keys)
    (same : (key == path) = true) : (keys.filter fun key => !(key == path)).length + 1 = keys.length := by
  induction keys with
  | nil => cases inside
  | cons first rest ih =>
    obtain ⟨apart, distinct⟩ := List.pairwise_cons.mp distinct
    by_cases here : (first == path) = true
    · have all : rest.filter (fun key => !(key == path)) = rest := by
        rw [List.filter_eq_self]
        intro other there
        have other_apart := apart other there
        rw [Bool.not_eq_true', Bool.eq_false_iff] at *
        exact fun found => other_apart (BEq.trans here (BEq.symm found))
      simp [here, all]
    · have later : key ∈ rest := by
        rcases List.mem_cons.mp inside with rfl | later
        · exact absurd same here
        · exact later
      simpa [here] using ih distinct later

theorem size_erase {map : PathMap α} (distinct : map.Distinct) {path : Path} {value : α}
    (found : map.get? path = some value) : (map.erase path).size + 1 = map.size := by
  have there : map.contains path = true := by rw [contains_eq_isSome, found]; rfl
  obtain ⟨key, inside, same⟩ := (contains_iff_keys map path).mp there
  rw [← length_keys, ← length_keys, keys_erase]
  exact length_filter_apart distinct inside same

theorem erase_congr (map : PathMap α) {left right : Path} (same : (left == right) = true) :
    map.erase left = map.erase right := by
  have moved (key : Path) : (key == left) = (key == right) := by
    rw [Bool.eq_iff_iff]
    exact ⟨fun found => BEq.trans found same, fun found => BEq.trans found (BEq.symm same)⟩
  simp only [erase, moved]

theorem erase_of_absent {map : PathMap α} {path : Path} (absent : map.get? path = none) : map.erase path = map := by
  rw [get?, Option.map_eq_none_iff, List.find?_eq_none] at absent
  have kept : map.entries.filter (fun entry => !(entry.1 == path)) = map.entries :=
    List.filter_eq_self.mpr fun entry inside => by simpa using absent entry inside
  rw [erase, kept]

theorem insert_of_absent {map : PathMap α} {path : Path} (absent : map.get? path = none) (value : α) :
    map.insert path value = ⟨map.entries ++ [(path, value)]⟩ := by
  have behind (entries : List (Path × α)) (missing : ∀ entry ∈ entries, ¬(entry.1 == path) = true) :
      place path value entries = entries ++ [(path, value)] := by
    induction entries with
    | nil => rfl
    | cons entry rest ih =>
      rw [place, if_neg (missing entry List.mem_cons_self), ih fun other inside => missing other (.tail _ inside)]
      rfl
  rw [get?, Option.map_eq_none_iff, List.find?_eq_none] at absent
  rw [insert, behind _ absent]

/-- What came for a path of which there was nothing is gone without a trace. -/
theorem erase_insert {map : PathMap α} {path : Path} (absent : map.get? path = none) (value : α) :
    (map.insert path value).erase path = map := by
  have gone : [(path, value)].filter (fun entry => !(entry.1 == path)) = [] := by simp
  rw [insert_of_absent absent, erase, List.filter_append, gone, List.append_nil]
  exact erase_of_absent absent

end UnitCache.PathMap
