import Mathlib.Data.List.Basic

namespace UnitCache.Text

open String (utf8EncodeChar)

def bytesOf (text : String) : List UInt8 := text.toUTF8.data.toList

/-- What is left of a number for the first byte if so many bytes behind it hold six bits each. -/
def upperBits : Nat → Nat → Nat
  | 0, point => point
  | count + 1, point => upperBits count (point / 64)

/-- The bytes of a character that has so many behind the first one, in which a mark tells their number. -/
def encoded (mark : Nat) : Nat → Nat → List UInt8
  | 0, point => [UInt8.ofNat (point + mark)]
  | count + 1, point => encoded mark count (point / 64) ++ [UInt8.ofNat (point % 64 + 0x80)]

section Bytes

variable {mark count : Nat} {m n : Nat} {first second : List UInt8}

theorem cons_lt (less : m < n) (fits : n < 256) : UInt8.ofNat m :: first < UInt8.ofNat n :: second := by
  apply List.cons_lt_cons_iff.mpr
  apply Or.inl
  rw [UInt8.lt_iff_toNat_lt, UInt8.toNat_ofNat', UInt8.toNat_ofNat']
  omega

theorem encoded_lt (less : m < n) (fits : upperBits count n + mark < 256) :
    encoded mark count m ++ first < encoded mark count n ++ second := by
  induction count generalizing m n first second with
  | zero =>
    have lead : m + mark < n + mark := by omega
    exact cons_lt lead fits
  | succ count ih =>
    rw [encoded, encoded, List.append_assoc, List.append_assoc]
    by_cases upper : m / 64 < n / 64
    · exact ih upper fits
    · have same : m / 64 = n / 64 := by omega
      rw [same]
      apply List.append_left_lt
      apply cons_lt <;> omega

end Bytes

section Characters

variable {c d : Char} {first second : List UInt8}

theorem val_toNat_lt (c : Char) : c.val.toNat < 0x110000 := by
  have valid := c.valid
  simp only [UInt32.isValidChar, Nat.isValidChar] at valid
  omega

/-- A character takes from one byte to four, by its number. -/
theorem utf8EncodeChar_eq (c : Char) : utf8EncodeChar c =
    if c.val.toNat ≤ 0x7F then encoded 0 0 c.val.toNat
    else if c.val.toNat ≤ 0x7FF then encoded 0xC0 1 c.val.toNat
    else if c.val.toNat ≤ 0xFFFF then encoded 0xE0 2 c.val.toNat
    else encoded 0xF0 3 c.val.toNat := by
  have bound := val_toNat_lt c
  unfold utf8EncodeChar
  generalize c.val.toNat = n at *
  simp only [encoded, Nat.div_div_eq_div_mul, Nat.reduceMul, List.nil_append, List.cons_append, Nat.add_zero]
  split
  next => rfl
  next =>
    split
    next =>
      have upper : n / 64 % 32 = n / 64 := by omega
      rw [upper]
    next =>
      split
      next =>
        have upper : n / 4096 % 16 = n / 4096 := by omega
        rw [upper]
      next =>
        have upper : n / 262144 % 8 = n / 262144 := by omega
        rw [upper]

theorem utf8EncodeChar_lt (less : c < d) : utf8EncodeChar c ++ first < utf8EncodeChar d ++ second := by
  have less : c.val.toNat < d.val.toNat := less
  have bound := val_toNat_lt d
  rw [utf8EncodeChar_eq, utf8EncodeChar_eq]
  generalize c.val.toNat = m at *
  generalize d.val.toNat = n at *
  split_ifs
  all_goals first
    | omega
    | (apply encoded_lt less; simp only [upperBits]; omega)
    | (apply cons_lt <;> omega)

theorem bytesOf_eq (text : String) : bytesOf text = text.toList.flatMap utf8EncodeChar := by
  have same : (String.ofList text.toList).toByteArray.data.toList = text.toList.flatMap utf8EncodeChar :=
    List.toList_data_toByteArray
  rwa [String.ofList_toList] at same

theorem flatMap_lt {first second : List Char} (less : first < second) :
    first.flatMap utf8EncodeChar < second.flatMap utf8EncodeChar := by
  induction first generalizing second with
  | nil =>
    cases second with
    | nil => exact absurd less (List.lt_irrefl [])
    | cons d second =>
      obtain ⟨byte, bytes, same⟩ := List.exists_cons_of_ne_nil String.utf8EncodeChar_ne_nil
      rw [List.flatMap_cons, same]
      exact List.nil_lt_cons ..
  | cons c first ih =>
    cases second with
    | nil => exact absurd less (List.not_lt_nil _)
    | cons d second =>
      rw [List.flatMap_cons, List.flatMap_cons]
      obtain lead | ⟨rfl, rest⟩ := List.cons_lt_cons_iff.mp less
      · exact utf8EncodeChar_lt lead
      · exact List.append_left_lt (ih rest)

theorem flatMap_lt_iff (first second : List Char) :
    first.flatMap utf8EncodeChar < second.flatMap utf8EncodeChar ↔ first < second := by
  obtain less | same | more := Std.lt_trichotomy first second
  · exact iff_of_true (flatMap_lt less) less
  · rw [same]
    exact iff_of_false (List.lt_irrefl _) (List.lt_irrefl _)
  · exact iff_of_false (List.lt_asymm (flatMap_lt more)) (List.lt_asymm more)

end Characters

/-- Texts are in the order of their bytes. -/
theorem le_iff_bytesOf_le (first second : String) : first ≤ second ↔ bytesOf first ≤ bytesOf second := by
  rw [bytesOf_eq, bytesOf_eq]
  exact not_congr (flatMap_lt_iff second.toList first.toList).symm

end UnitCache.Text
