import Mathlib.Data.List.TakeWhile
import Mathlib.Tactic.Common
import UnitCache.ParseFlags
import UnitCache.Proofs.Records

namespace UnitCache.ParseFlags

section Numbers

theorem hexValue?_digitChar : ∀ digit < 16, Text.hexValue? digit.digitChar = some digit := by decide

theorem mem_toDigits {value : Nat} {c : Char} (inside : c ∈ Nat.toDigits 16 value) :
    ∃ digit < 16, c = digit.digitChar := by
  induction value using Nat.strong_induction_on with
  | _ value ih =>
    rw [Nat.toDigits_eq_if (by decide)] at inside
    split at inside
    next small => exact ⟨value, small, List.mem_singleton.mp inside⟩
    next =>
      rcases List.mem_append.mp inside with before | last
      · exact ih (value / 16) (by omega) before
      · exact ⟨value % 16, by omega, List.mem_singleton.mp last⟩

theorem foldlM_toDigits (value : Nat) :
    (Nat.toDigits 16 value).foldlM (fun value c => (Text.hexValue? c).map fun digit => value * 16 + digit) 0 =
      some value := by
  induction value using Nat.strong_induction_on with
  | _ value ih =>
    rw [Nat.toDigits_eq_if (by decide)]
    split
    next small => simp [hexValue?_digitChar value small]
    next =>
      rw [List.foldlM_append, ih (value / 16) (by omega)]
      simp [hexValue?_digitChar (value % 16) (by omega)]
      omega

theorem bits?_toDigits (bits : UInt32) : bits? (Nat.toDigits 16 bits.toNat) = some bits := by
  have plain : unsigned (Nat.toDigits 16 bits.toNat) = Nat.toDigits 16 bits.toNat := by
    obtain ⟨c, digits, same⟩ := List.exists_cons_of_ne_nil (Nat.toDigits_ne_nil (n := bits.toNat) (b := 16))
    obtain ⟨digit, small, rfl⟩ := mem_toDigits (same ▸ List.mem_cons_self : c ∈ Nat.toDigits 16 bits.toNat)
    have other : ∀ digit < 16, digit.digitChar ≠ '+' := by decide
    rw [same, unsigned]
    intro _ plus
    exact other digit small (List.cons.inj plus).1
  have filled : (Nat.toDigits 16 bits.toNat).isEmpty = false := by simp
  rw [bits?, plain, hexNumber?, if_neg (by simp [filled]), foldlM_toDigits]
  simp [bits.toNat_lt_size]

end Numbers

section Parts

def IsSolid (part : List Char) : Prop := ∀ c ∈ part, Text.isBlank c = false ∧ c ≠ '|'

instance (part : List Char) : Decidable (IsSolid part) := List.decidableBAll _ part

def AllBlank (chars : List Char) : Prop := ∀ c ∈ chars, Text.isBlank c = true

instance (chars : List Char) : Decidable (AllBlank chars) := List.decidableBAll _ chars

variable {part before behind : List Char}

theorem dropWhile_solid (solid : IsSolid part) (after : AllBlank behind) :
    (part ++ behind).dropWhile Text.isBlank = if part.isEmpty then [] else part ++ behind := by
  cases part with
  | nil => simpa [AllBlank] using after
  | cons c part => simp [(solid c List.mem_cons_self).1]

theorem IsSolid.reverse (solid : IsSolid part) : IsSolid part.reverse :=
  fun c inside => solid c (List.mem_reverse.mp inside)

theorem trimChars_around (solid : IsSolid part) (ahead : AllBlank before) (after : AllBlank behind) :
    Text.trimChars (before ++ (part ++ behind)) = part := by
  rw [Text.trimChars, List.dropWhile_append_of_pos ahead, dropWhile_solid solid after]
  cases part with
  | nil => rfl
  | cons c part =>
    have blank : ∀ c ∈ behind.reverse, Text.isBlank c = true := fun c inside => after c (List.mem_reverse.mp inside)
    have rest := dropWhile_solid solid.reverse (fun _ inside => nomatch inside : AllBlank [])
    rw [List.append_nil] at rest
    rw [List.isEmpty_cons, if_neg Bool.false_ne_true, List.reverse_append, List.dropWhile_append_of_pos blank, rest]
    simp

theorem trimChars_solid (solid : IsSolid part) : Text.trimChars part = part := by
  have around := trimChars_around solid (by decide : AllBlank []) (by decide : AllBlank [])
  rwa [List.nil_append, List.append_nil] at around

theorem ofPart?_around (solid : IsSolid part) (ahead : AllBlank before) (after : AllBlank behind) :
    ofPart? (before ++ (part ++ behind)) = ofPart? part := by
  rw [ofPart?, trimChars_around solid ahead after, ofPart?, trimChars_solid solid]

theorem splitBars_solid (solid : IsSolid part) (current rest : List Char) :
    splitBars current (part ++ rest) = splitBars (part.reverse ++ current) rest := by
  induction part generalizing current with
  | nil => rfl
  | cons c part ih =>
    rw [List.cons_append, splitBars, if_neg (by simpa using (solid c List.mem_cons_self).2),
      ih fun other inside => solid other (List.mem_cons_of_mem _ inside)]
    simp

theorem mapM_splitBars {parts : List (List Char)} (filled : parts ≠ []) (solid : ∀ part ∈ parts, IsSolid part)
    (current : List Char) (ahead : AllBlank current) :
    (splitBars current (" | ".toList.intercalate parts)).mapM ofPart? = parts.mapM ofPart? := by
  induction parts generalizing current with
  | nil => exact absurd rfl filled
  | cons part parts ih =>
    have first := solid part List.mem_cons_self
    have blanks : AllBlank current.reverse := fun c inside => ahead c (List.mem_reverse.mp inside)
    cases parts with
    | nil =>
      have alone := splitBars_solid first current []
      have read := ofPart?_around first blanks (by decide : AllBlank [])
      rw [List.append_nil] at alone read
      simp [alone, splitBars, read]
    | cons next parts =>
      have read := ofPart?_around first blanks (by decide : AllBlank [' '])
      have more := ih (by simp) (fun part inside => solid part (List.mem_cons_of_mem _ inside)) [' '] (by decide)
      have cut : splitBars current (" | ".toList.intercalate (part :: next :: parts)) =
          (current.reverse ++ (part ++ [' '])) :: splitBars [' '] (" | ".toList.intercalate (next :: parts)) := by
        have bar : " | ".toList = [' ', '|', ' '] := rfl
        rw [List.intercalate_cons_cons, List.append_assoc, splitBars_solid first]
        simp [bar, splitBars]
      rw [cut, List.mapM_cons, read, more, ← List.mapM_cons]

end Parts

section Sets

theorem union_move (bits rest inner : UInt32) (inside : (rest ||| bits) &&& inner = inner) :
    (rest ||| inner) ||| (bits &&& ~~~inner) = rest ||| bits := by
  have apart : (rest ||| inner) ||| (bits &&& ~~~inner) = (rest ||| bits) ||| inner := by
    apply UInt32.eq_of_toBitVec_eq
    ext place bound
    simp only [UInt32.toBitVec_or, UInt32.toBitVec_and, UInt32.toBitVec_not, BitVec.getElem_or, BitVec.getElem_and,
      BitVec.getElem_not]
    cases rest.toBitVec[place] <;> cases bits.toBitVec[place] <;> cases inner.toBitVec[place] <;> rfl
  have absorbed (all : UInt32) : all ||| (all &&& inner) = all := by
    apply UInt32.eq_of_toBitVec_eq
    ext place bound
    simp only [UInt32.toBitVec_or, UInt32.toBitVec_and, BitVec.getElem_or, BitVec.getElem_and]
    cases all.toBitVec[place] <;> cases inner.toBitVec[place] <;> rfl
  have whole := absorbed (rest ||| bits)
  rw [inside] at whole
  rw [apart, whole]

theorem union_named (flags : ParseFlags) (names : List (String × ParseFlags)) (taken : ParseFlags) (bits : UInt32)
    (whole : taken.bits ||| bits = flags.bits) :
    (((names.filter fun flag => flags.contains flag.2).map Prod.snd).foldl union taken).bits |||
        names.foldl (fun bits flag => if flags.contains flag.2 then bits &&& ~~~flag.2.bits else bits) bits =
      flags.bits := by
  induction names generalizing taken bits with
  | nil => exact whole
  | cons flag names ih =>
    cases held : flags.contains flag.2 with
    | false => simpa [held] using ih taken bits whole
    | true =>
      have inside : (taken.bits ||| bits) &&& flag.2.bits = flag.2.bits := by
        rw [whole]
        simpa [contains] using held
      have moved : (taken.union flag.2).bits ||| (bits &&& ~~~flag.2.bits) = flags.bits :=
        (union_move bits taken.bits flag.2.bits inside).trans whole
      simpa [held] using ih _ _ moved

theorem named_reads : ∀ flag ∈ named,
    flag.1.toList ≠ [] ∧ IsSolid flag.1.toList ∧ ofPart? flag.1.toList = some flag.2 := by
  decide

theorem number_reads (bits : UInt32) :
    IsSolid ("0x" ++ String.ofList (Nat.toDigits 16 bits.toNat)).toList ∧
      ofPart? ("0x" ++ String.ofList (Nat.toDigits 16 bits.toNat)).toList = some ⟨bits⟩ := by
  have spelled : ("0x" ++ String.ofList (Nat.toDigits 16 bits.toNat)).toList =
      '0' :: 'x' :: Nat.toDigits 16 bits.toNat := by
    simp
  have solid : IsSolid ('0' :: 'x' :: Nat.toDigits 16 bits.toNat) := by
    have digits : ∀ digit < 16, Text.isBlank digit.digitChar = false ∧ digit.digitChar ≠ '|' := by decide
    rintro c (_ | ⟨_, _ | ⟨_, inside⟩⟩)
    · decide
    · decide
    · obtain ⟨digit, small, rfl⟩ := mem_toDigits inside
      exact digits digit small
  rw [spelled, ofPart?, trimChars_solid solid]
  exact ⟨solid, by simp [bits?_toDigits]⟩

/-- The parts of the text of a set are free of blanks and bars, and together they give the set. -/
theorem parts_read (flags : ParseFlags) :
    (∀ part ∈ flags.parts, part.toList ≠ [] ∧ IsSolid part.toList) ∧
      ∃ sets, (flags.parts.map String.toList).mapM ofPart? = some sets ∧ sets.foldl union empty = flags := by
  have whole : ((named.filter fun flag => flags.contains flag.2).map Prod.snd |>.foldl union empty).bits |||
      flags.unnamedBits = flags.bits := union_named flags named empty flags.bits (by simp [empty])
  have known {flag : String × ParseFlags} (held : flag ∈ named.filter fun flag => flags.contains flag.2) :=
    named_reads flag (List.mem_filter.mp held).1
  have names : ((named.filter fun flag => flags.contains flag.2).map (String.toList ∘ Prod.fst)).mapM ofPart? =
      some ((named.filter fun flag => flags.contains flag.2).map Prod.snd) := by
    rw [List.mapM_map]
    exact mapM_eq_some fun flag held => (known held).2.2
  have clean : ∀ part ∈ (named.filter fun flag => flags.contains flag.2).map Prod.fst,
      part.toList ≠ [] ∧ IsSolid part.toList := by
    intro part inside
    obtain ⟨flag, held, rfl⟩ := List.mem_map.mp inside
    exact ⟨(known held).1, (known held).2.1⟩
  cases rest : flags.unnamedBits == 0 with
  | true =>
    rw [beq_iff_eq.mp rest, UInt32.or_zero] at whole
    simp only [parts, rest, if_true, List.append_nil, List.map_map]
    exact ⟨clean, _, names, congrArg ParseFlags.mk whole⟩
  | false =>
    obtain ⟨solid, reads⟩ := number_reads flags.unnamedBits
    simp only [parts, rest, Bool.false_eq_true, if_false, List.map_append, List.map_map]
    refine ⟨?_, _, by rw [List.mapM_append, names, List.map_singleton, List.mapM_cons, reads]; rfl, ?_⟩
    · intro part inside
      rcases List.mem_append.mp inside with name | number
      · exact clean part name
      · rw [List.mem_singleton.mp number]
        exact ⟨by simp, solid⟩
    · rw [List.foldl_append]
      exact congrArg ParseFlags.mk whole

/-- The text of a set is read as the set, with bits that have no name or without. -/
theorem ofText?_text (flags : ParseFlags) : ofText? flags.text = some flags := by
  obtain ⟨clean, sets, read, whole⟩ := flags.parts_read
  have spelled : flags.text.toList = " | ".toList.intercalate (flags.parts.map String.toList) :=
    String.toList_intercalate
  have solid : ∀ part ∈ flags.parts.map String.toList, IsSolid part := by
    intro part inside
    obtain ⟨part, given, rfl⟩ := List.mem_map.mp inside
    exact (clean part given).2
  rw [ofText?]
  cases parts : flags.parts with
  | nil =>
    have none : flags = empty := by
      rw [parts] at read
      cases read
      exact whole.symm
    have blank : flags.text = "" := by rw [text, parts]; rfl
    rw [blank, none]
    rfl
  | cons part more =>
    have filled : flags.parts.map String.toList ≠ [] := by simp [parts]
    have dark : (Text.trimChars flags.text.toList).isEmpty = false := by
      obtain ⟨given, solid⟩ := clean part (parts ▸ List.mem_cons_self)
      obtain ⟨c, chars, same⟩ := List.exists_cons_of_ne_nil given
      have first := (solid c (same ▸ List.mem_cons_self)).1
      have starts : ∃ rest, flags.text.toList = c :: rest := by
        rw [spelled, parts, List.map_cons, same]
        cases more with
        | nil => exact ⟨chars, by simp⟩
        | cons next more =>
          rw [List.map_cons, List.intercalate_cons_cons]
          exact ⟨_, rfl⟩
      obtain ⟨rest, starts⟩ := starts
      simp [starts, Text.trimChars, first]
    rw [if_neg (by simp [dark]), spelled, mapM_splitBars filled solid [] (by decide), read]
    exact congrArg some whole

end Sets

end UnitCache.ParseFlags
