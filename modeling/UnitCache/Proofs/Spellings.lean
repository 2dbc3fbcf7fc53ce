import Mathlib.Data.List.DropRight
import Mathlib.Data.List.TakeWhile
import Mathlib.Tactic.Common
import UnitCache.Json.Printer
import UnitCache.Json.Reader
/-!
How values may be spelled. The spellings are given as a grammar, apart from the reader, and every text of the grammar is
read as the value that it spells, whatever blanks and escapes it has. What the printers print is spelled right, so it is
read back.
-/
namespace UnitCache.Json

section Strings

inductive Spells : StringUnit → List Char → Prop where
  | plain (c : Char) (unquoted : c ≠ '"') (unescaped : c ≠ '\\') (printed : 0x20 ≤ c.toNat) : Spells (.char c) [c]
  | short (mark c : Char) (known : shortEscape? mark = some c) : Spells (.char c) ['\\', mark]
  | number (a b c d : Char) (value : Nat) (known : hexNumber? a b c d = some value) :
      Spells (.number value) ['\\', 'u', a, b, c, d]

inductive SpellsAll : List StringUnit → List Char → Prop where
  | nil : SpellsAll [] []
  | cons {unit : StringUnit} {units : List StringUnit} {piece chars : List Char} (first : Spells unit piece)
      (others : SpellsAll units chars) : SpellsAll (unit :: units) (piece ++ chars)

variable {units : List StringUnit} {unit : StringUnit} {chars piece : List Char}

theorem Spells.read (spells : Spells unit piece) (read : List StringUnit) (rest : List Char) :
    readUnits read (piece ++ rest) = readUnits (unit :: read) rest := by
  cases spells with
  | plain c unquoted unescaped printed =>
    rw [List.singleton_append, readUnits]
    · simp [unquoted, unescaped, Nat.not_lt.mpr printed]
    · rintro _ _ _ _ _ rfl
      exact absurd rfl unescaped
    · rintro _ _ rfl
      exact absurd rfl unescaped
  | short mark c known =>
    have other : mark ≠ 'u' := by
      rintro rfl
      cases known
    simp only [List.cons_append, List.nil_append]
    rw [readUnits]
    · rw [known]
    · rintro _ _ _ _ _ rfl
      exact absurd rfl other
  | number a b c d value known =>
    simp only [List.cons_append, List.nil_append]
    rw [readUnits, known]

theorem SpellsAll.read (spells : SpellsAll units chars) (rest : List Char) :
    readString (chars ++ '"' :: rest) = some ((charsOf? units).map String.ofList, rest) := by
  have all (read : List StringUnit) : readUnits read (chars ++ '"' :: rest) = some (read.reverse ++ units, rest) := by
    induction spells generalizing read with
    | nil => simp [readUnits]
    | cons first others ih =>
      rw [List.append_assoc, first.read, ih]
      simp
  simp [readString, all]

theorem charsOf?_char (c : Char) (units : List StringUnit) :
    charsOf? (.char c :: units) = (charsOf? units).map (c :: ·) := by
  rw [charsOf?]

theorem charsOf?_number {value : Nat} (single : isHighHalf value = false ∧ isLowHalf value = false)
    (units : List StringUnit) : charsOf? (.number value :: units) = (charsOf? units).map (Char.ofNat value :: ·) := by
  cases units with
  | nil => simp [charsOf?, single]
  | cons unit units => cases unit <;> simp [charsOf?, single]

theorem hexNumber?_low : ∀ value < 0x20,
    hexNumber? '0' '0' (hexDigit (value / 16)) (hexDigit (value % 16)) = some value := by
  decide

def shortEscapes : List (Char × Char) :=
  [('"', '"'), ('\\', '\\'), ('\n', 'n'), ('\r', 'r'), ('\t', 't'), ('\x08', 'b'), ('\x0c', 'f')]

theorem escape_short : ∀ pair ∈ shortEscapes,
    escape pair.1 = ['\\', pair.2] ∧ shortEscape? pair.2 = some pair.1 := by
  decide

theorem escape_other {c : Char} (other : ∀ pair ∈ shortEscapes, c ≠ pair.1) :
    escape c = if c.toNat < 0x20 then ['\\', 'u', '0', '0', hexDigit (c.toNat / 16), hexDigit (c.toNat % 16)]
      else [c] := by
  simp only [shortEscapes, List.forall_mem_cons] at other
  simp [escape, other]

theorem spells_escape (c : Char) :
    ∃ unit, Spells unit (escape c) ∧ ∀ units, charsOf? (unit :: units) = (charsOf? units).map (c :: ·) := by
  by_cases short : ∃ pair ∈ shortEscapes, c = pair.1
  · obtain ⟨pair, listed, rfl⟩ := short
    obtain ⟨written, known⟩ := escape_short pair listed
    exact ⟨.char pair.1, written ▸ .short pair.2 pair.1 known, charsOf?_char pair.1⟩
  have other : ∀ pair ∈ shortEscapes, c ≠ pair.1 := fun pair listed same => short ⟨pair, listed, same⟩
  rw [escape_other other]
  split
  next low =>
    refine ⟨.number c.toNat, .number _ _ _ _ _ (hexNumber?_low _ low), fun units => ?_⟩
    have single : isHighHalf c.toNat = false ∧ isLowHalf c.toNat = false := by
      simp only [isHighHalf, isLowHalf, Bool.and_eq_false_iff, decide_eq_false_iff_not]
      omega
    rw [charsOf?_number single, Char.ofNat_toNat]
  next printed =>
    have unquoted : c ≠ '"' := other ('"', '"') (by decide)
    have unescaped : c ≠ '\\' := other ('\\', '\\') (by decide)
    exact ⟨.char c, .plain c unquoted unescaped (Nat.not_lt.mp printed), charsOf?_char c⟩

theorem spells_escaped (text : List Char) :
    ∃ units, SpellsAll units (text.flatMap escape) ∧ charsOf? units = some text := by
  induction text with
  | nil => exact ⟨[], .nil, rfl⟩
  | cons c text ih =>
    obtain ⟨unit, first, stands⟩ := spells_escape c
    obtain ⟨units, others, known⟩ := ih
    refine ⟨unit :: units, ?_, by rw [stands, known]; rfl⟩
    rw [List.flatMap_cons]
    exact .cons first others

end Strings

section Numbers

structure IsDigits (digits : List Char) : Prop where
  filled : digits ≠ []
  all : ∀ c ∈ digits, isDigit c = true

/-- What may stand between the point of a number and its exponent, the point with it, and whether there is anything. -/
inductive IsFraction : Bool → List Char → Prop where
  | absent : IsFraction false []
  | digits {digits : List Char} (given : IsDigits digits) : IsFraction true ('.' :: digits)

inductive IsExponent : Bool → List Char → Prop where
  | absent : IsExponent false []
  | unsigned (mark : Char) {digits : List Char} (marked : mark = 'e' ∨ mark = 'E') (given : IsDigits digits) :
      IsExponent true (mark :: digits)
  | signed (mark sign : Char) {digits : List Char} (marked : mark = 'e' ∨ mark = 'E')
      (signed : sign = '+' ∨ sign = '-') (given : IsDigits digits) : IsExponent true (mark :: sign :: digits)

def goesOn (c : Char) : Bool := isDigit c || c == '.' || c == 'e' || c == 'E'

def Ends (rest : List Char) : Prop := ∀ c, rest.head? = some c → goesOn c = false

def EndsDigits (rest : List Char) : Prop := ∀ c, rest.head? = some c → isDigit c = false

theorem Ends.digits {rest : List Char} (ends : Ends rest) : EndsDigits rest := by
  intro c first
  have other := ends c first
  simp only [goesOn, Bool.or_eq_false_iff] at other
  exact other.1.1.1

theorem digit_ne {c d : Char} (digit : isDigit c = true) (other : isDigit d = false) : c ≠ d := by
  rintro rfl
  rw [other] at digit
  cases digit

theorem takeDigits {digits rest : List Char} (given : IsDigits digits) (ends : EndsDigits rest) :
    (digits ++ rest).takeWhile isDigit = digits ∧ (digits ++ rest).dropWhile isDigit = rest := by
  rw [List.takeWhile_append_of_pos given.all, List.dropWhile_append_of_pos given.all]
  cases rest with
  | nil => simp
  | cons c rest => simp [ends c rfl]

theorem readDigits_append {digits rest : List Char} (given : IsDigits digits) (ends : EndsDigits rest) :
    readDigits (digits ++ rest) = some rest := by
  obtain ⟨taken, left⟩ := takeDigits given ends
  simp [readDigits, taken, left, given.filled]

theorem isDigit_eq (c : Char) : isDigit c = c.isDigit := by
  simp [isDigit, Char.isDigit, Char.le_def]

theorem isDigits_toDigits (value : Nat) : IsDigits (Nat.toDigits 10 value) where
  filled := Nat.toDigits_ne_nil
  all c inside := by
    rw [isDigit_eq]
    exact Nat.isDigit_of_mem_toDigits (by decide) (by decide) inside

theorem digitsValue_toDigits (value : Nat) : digitsValue (Nat.toDigits 10 value) = value := by
  have same := Nat.ofDigitChars_toDigits (b := 10) (n := value) (by decide) (by decide)
  simpa only [digitsValue, Nat.ofDigitChars, Nat.mul_comm 10] using same

theorem head_toDigits {value : Nat} (positive : 0 < value) : (Nat.toDigits 10 value).head? ≠ some '0' := by
  induction value using Nat.strong_induction_on with
  | _ value ih =>
    rw [Nat.toDigits_eq_if (by decide)]
    split
    next small =>
      have nine : ∀ digit < 10, 0 < digit → digit.digitChar ≠ '0' := by decide
      simpa using nine value small positive
    next =>
      have again := ih (value / 10) (by omega) (by omega)
      obtain ⟨c, digits, whole⟩ := List.exists_cons_of_ne_nil (Nat.toDigits_ne_nil (n := value / 10) (b := 10))
      rw [whole] at again ⊢
      exact again

theorem readWhole_append (value : Nat) {rest : List Char} (ends : EndsDigits rest) :
    readWhole (Nat.toDigits 10 value ++ rest) = some (value, rest) := by
  rcases Nat.eq_zero_or_pos value with rfl | positive
  · rfl
  · obtain ⟨taken, left⟩ := takeDigits (isDigits_toDigits value) ends
    have same := digitsValue_toDigits value
    have first := head_toDigits positive
    have all := (isDigits_toDigits value).all
    generalize Nat.toDigits 10 value = digits at *
    cases digits with
    | nil => simp [digitsValue] at same; omega
    | cons c digits =>
      have other : ¬c = '0' := by simpa using first
      rw [List.cons_append] at taken left ⊢
      simp [readWhole, other, all, taken, left, same]

theorem readFraction_append {hasFraction : Bool} {fraction rest : List Char} (given : IsFraction hasFraction fraction)
    (ends : EndsDigits rest) (other : hasFraction = false → rest.head? ≠ some '.') :
    readFraction (fraction ++ rest) = some (hasFraction, rest) := by
  cases given with
  | absent =>
    cases rest with
    | nil => rfl
    | cons c rest =>
      have apart : c ≠ '.' := by simpa using other rfl
      rw [List.nil_append, readFraction]
      simpa using apart
  | digits given => simp [readFraction, readDigits_append given ends]

theorem readExponent_append {hasExponent : Bool} {exponent rest : List Char} (given : IsExponent hasExponent exponent)
    (ends : Ends rest) : readExponent (exponent ++ rest) = some (hasExponent, rest) := by
  cases given with
  | absent =>
    cases rest with
    | nil => rfl
    | cons c rest =>
      have other := ends c rfl
      simp only [goesOn, Bool.or_eq_false_iff] at other
      simp [readExponent, other]
  | unsigned mark marked given =>
    have read := readDigits_append given ends.digits
    have known : (mark == 'e' || mark == 'E') = true := by simpa using marked
    obtain ⟨c, digits, rfl⟩ := List.exists_cons_of_ne_nil given.filled
    have digit := given.all c List.mem_cons_self
    have plus : c ≠ '+' := digit_ne digit rfl
    have minus : c ≠ '-' := digit_ne digit rfl
    simp only [List.cons_append, readExponent, known, if_true] at read ⊢
    split
    next same => exact absurd (List.cons.inj same).1 plus
    next same => exact absurd (List.cons.inj same).1 minus
    next => rw [read]; rfl
  | signed mark sign marked signed given =>
    have read := readDigits_append given ends.digits
    have known : (mark == 'e' || mark == 'E') = true := by simpa using marked
    rcases signed with rfl | rfl <;> simp [readExponent, known, read]

theorem endsDigits_behind {hasFraction hasExponent : Bool} {fraction exponent rest : List Char}
    (hasPlaces : IsFraction hasFraction fraction) (hasPower : IsExponent hasExponent exponent) (ends : Ends rest) :
    EndsDigits (exponent ++ rest) ∧ EndsDigits (fraction ++ (exponent ++ rest)) := by
  have behind : EndsDigits (exponent ++ rest) := by
    cases hasPower with
    | absent => exact ends.digits
    | unsigned mark marked | signed mark sign marked =>
      rintro c ⟨⟩
      rcases marked with rfl | rfl <;> rfl
  refine ⟨behind, ?_⟩
  cases hasPlaces with
  | absent => exact behind
  | digits =>
    rintro c ⟨⟩
    rfl

theorem readUnsigned_append (value : Nat) {hasFraction hasExponent : Bool} {fraction exponent rest : List Char}
    (hasPlaces : IsFraction hasFraction fraction) (hasPower : IsExponent hasExponent exponent) (ends : Ends rest) :
    readUnsigned (Nat.toDigits 10 value ++ (fraction ++ (exponent ++ rest))) =
      some (if hasFraction || hasExponent then .otherNumber else .natural value, rest) := by
  obtain ⟨behind, whole⟩ := endsDigits_behind hasPlaces hasPower ends
  have other : (exponent ++ rest).head? ≠ some '.' := by
    cases hasPower with
    | absent =>
      intro point
      have stops := ends '.' point
      cases stops
    | unsigned mark marked | signed mark sign marked => rcases marked with rfl | rfl <;> simp
  rw [readUnsigned, readWhole_append value whole]
  simp [readFraction_append hasPlaces behind fun _ => other, readExponent_append hasPower ends]

end Numbers

section Values

def IsBlank (chars : List Char) : Prop := ∀ c ∈ chars, isSpace c = true

/-- What can be written: a value, or what stands behind the opening bracket of an array or an object that is not
empty. -/
inductive Phrase where
  | value (value : Json)
  | items (items : List Json)
  | members (members : List (Option String × Json))

inductive Written : Phrase → List Char → Prop where
  | null : Written (.value .null) ['n', 'u', 'l', 'l']
  | true : Written (.value (.bool Bool.true)) ['t', 'r', 'u', 'e']
  | false : Written (.value (.bool Bool.false)) ['f', 'a', 'l', 's', 'e']
  | natural (value : Nat) : Written (.value (.natural value)) (Nat.toDigits 10 value)
  | positive (value : Nat) {hasFraction hasExponent : Bool} {fraction exponent : List Char}
      (places : IsFraction hasFraction fraction) (power : IsExponent hasExponent exponent)
      (other : (hasFraction || hasExponent) = Bool.true) :
      Written (.value .otherNumber) (Nat.toDigits 10 value ++ (fraction ++ exponent))
  | negative (value : Nat) {hasFraction hasExponent : Bool} {fraction exponent : List Char}
      (places : IsFraction hasFraction fraction) (power : IsExponent hasExponent exponent) :
      Written (.value .otherNumber) ('-' :: (Nat.toDigits 10 value ++ (fraction ++ exponent)))
  | string {units : List StringUnit} {chars : List Char} (spells : SpellsAll units chars) :
      Written (.value (.string ((charsOf? units).map String.ofList))) ('"' :: (chars ++ ['"']))
  | emptyArray {blanks : List Char} (blank : IsBlank blanks) : Written (.value (.array [])) ('[' :: (blanks ++ [']']))
  | array {items : List Json} {chars : List Char} (inner : Written (.items items) chars) :
      Written (.value (.array items)) ('[' :: chars)
  | emptyObject {blanks : List Char} (blank : IsBlank blanks) :
      Written (.value (.object [])) ('\x7b' :: (blanks ++ ['\x7d']))
  | object {members : List (Option String × Json)} {chars : List Char} (inner : Written (.members members) chars) :
      Written (.value (.object members)) ('\x7b' :: chars)
  | lastItem {item : Json} {before chars behind : List Char} (ahead : IsBlank before)
      (first : Written (.value item) chars) (after : IsBlank behind) :
      Written (.items [item]) (before ++ (chars ++ (behind ++ [']'])))
  | item {item : Json} {items : List Json} {before chars behind more : List Char} (ahead : IsBlank before)
      (first : Written (.value item) chars) (after : IsBlank behind) (others : Written (.items items) more) :
      Written (.items (item :: items)) (before ++ (chars ++ (behind ++ ',' :: more)))
  | lastMember {units : List StringUnit} {value : Json} {before name between gap chars behind : List Char}
      (ahead : IsBlank before) (named : SpellsAll units name) (blank : IsBlank between) (space : IsBlank gap)
      (first : Written (.value value) chars) (after : IsBlank behind) :
      Written (.members [((charsOf? units).map String.ofList, value)])
        (before ++ '"' :: (name ++ '"' :: (between ++ ':' :: (gap ++ (chars ++ (behind ++ ['\x7d']))))))
  | member {units : List StringUnit} {value : Json} {members : List (Option String × Json)}
      {before name between gap chars behind more : List Char}
      (ahead : IsBlank before) (named : SpellsAll units name) (blank : IsBlank between) (space : IsBlank gap)
      (first : Written (.value value) chars) (after : IsBlank behind) (others : Written (.members members) more) :
      Written (.members (((charsOf? units).map String.ofList, value) :: members))
        (before ++ '"' :: (name ++ '"' :: (between ++ ':' :: (gap ++ (chars ++ (behind ++ ',' :: more))))))

theorem skipSpace_append {blanks : List Char} (blank : IsBlank blanks) (chars : List Char) :
    skipSpace (blanks ++ chars) = skipSpace chars := List.dropWhile_append_of_pos blank

theorem skipSpace_cons {c : Char} (filled : isSpace c = false) (chars : List Char) :
    skipSpace (c :: chars) = c :: chars := List.dropWhile_cons_of_neg (by simp [filled])

theorem readValue_blanks {blanks : List Char} (blank : IsBlank blanks) (fuel : Nat) (chars : List Char) :
    readValue fuel (blanks ++ chars) = readValue fuel chars := by
  cases fuel with
  | zero => rfl
  | succ fuel => simp only [readValue, skipSpace_append blank]

theorem readItems_skipSpace (fuel : Nat) (read : List Json) (chars : List Char) :
    readItems fuel read (skipSpace chars) = readItems fuel read chars := by
  cases fuel with
  | zero => rfl
  | succ fuel =>
    have same : readValue fuel (skipSpace chars) = readValue fuel chars := by
      cases fuel with
      | zero => rfl
      | succ fuel => simp only [readValue, skipSpace, List.dropWhile_idempotent]
    simp only [readItems, same]

theorem readMembers_skipSpace (fuel : Nat) (read : List (Option String × Json)) (chars : List Char) :
    readMembers fuel read (skipSpace chars) = readMembers fuel read chars := by
  cases fuel with
  | zero => rfl
  | succ fuel => simp only [readMembers, skipSpace, List.dropWhile_idempotent]

theorem ends_behind {blanks : List Char} (blank : IsBlank blanks) {c : Char} (stops : goesOn c = false)
    (rest : List Char) : Ends (blanks ++ c :: rest) := by
  intro first
  cases blanks with
  | nil =>
    rintro ⟨⟩
    exact stops
  | cons _ blanks =>
    rintro ⟨⟩
    have known : isSpace first = true := blank first List.mem_cons_self
    simp only [isSpace, Bool.or_eq_true, beq_iff_eq] at known
    rcases known with ((rfl | rfl) | rfl) | rfl <;> rfl

theorem number_ne {c d : Char} (first : isDigit c = true ∨ c = '-') (other : isDigit d = false ∧ d ≠ '-') :
    c ≠ d := by
  rcases first with digit | rfl
  · exact digit_ne digit other.1
  · exact other.2.symm

theorem number_filled {c : Char} (first : isDigit c = true ∨ c = '-') : isSpace c = false := by
  have other {d : Char} (apart : isDigit d = false ∧ d ≠ '-') := number_ne first apart
  simp [isSpace, other (d := ' ') (by decide), other (d := '\n') (by decide), other (d := '\t') (by decide),
    other (d := '\r') (by decide)]

theorem readValue_number {c : Char} (first : isDigit c = true ∨ c = '-') (fuel : Nat) (chars : List Char) :
    readValue (fuel + 1) (c :: chars) = readNumber (c :: chars) := by
  have other {d : Char} (apart : isDigit d = false ∧ d ≠ '-') := number_ne first apart
  rw [readValue, skipSpace_cons (number_filled first)]
  split
  next same => exact absurd (List.cons.inj same).1 (other (by decide))
  next same => exact absurd (List.cons.inj same).1 (other (by decide))
  next same => exact absurd (List.cons.inj same).1 (other (by decide))
  next same => exact absurd (List.cons.inj same).1 (other (by decide))
  next same => exact absurd (List.cons.inj same).1 (other (by decide))
  next same => exact absurd (List.cons.inj same).1 (other (by decide))
  next => rfl

theorem Written.first {value : Json} {chars : List Char} (written : Written (.value value) chars) :
    ∃ c more, chars = c :: more ∧ isSpace c = Bool.false ∧ c ≠ ']' := by
  have digits (value : Nat) (rest : List Char) :
      ∃ c more, Nat.toDigits 10 value ++ rest = c :: more ∧ isSpace c = Bool.false ∧ c ≠ ']' := by
    have all := (isDigits_toDigits value).all
    obtain ⟨c, digits, whole⟩ := List.exists_cons_of_ne_nil (Nat.toDigits_ne_nil (n := value) (b := 10))
    rw [whole] at all ⊢
    have digit := all c List.mem_cons_self
    exact ⟨c, _, rfl, number_filled (.inl digit), digit_ne digit rfl⟩
  cases written with
  | natural value => simpa using digits value []
  | positive value => exact digits value _
  | _ => exact ⟨_, _, rfl, rfl, by decide⟩

theorem Written.first_item {items : List Json} {chars : List Char} (written : Written (.items items) chars)
    (rest : List Char) : ∃ c more, skipSpace (chars ++ rest) = c :: more ∧ c ≠ ']' := by
  cases written with
  | lastItem ahead first | item ahead first =>
    obtain ⟨c, more, rfl, filled, other⟩ := first.first
    rw [List.append_assoc, skipSpace_append ahead, List.cons_append, List.cons_append, skipSpace_cons filled]
    exact ⟨c, _, rfl, other⟩

theorem Written.first_member {members : List (Option String × Json)} {chars : List Char}
    (written : Written (.members members) chars) (rest : List Char) :
    ∃ more, skipSpace (chars ++ rest) = '"' :: more := by
  cases written with
  | lastMember ahead | member ahead =>
    rw [List.append_assoc, skipSpace_append ahead, List.cons_append, skipSpace_cons rfl]
    exact ⟨_, rfl⟩

/-- What reading makes of a phrase in front of any text that does not go on it. -/
def Reads : Phrase → List Char → Prop
  | .value value, chars => ∀ fuel rest, chars.length ≤ fuel → Ends rest →
      readValue fuel (chars ++ rest) = some (value, rest)
  | .items items, chars => ∀ fuel read rest, chars.length ≤ fuel →
      readItems fuel read (chars ++ rest) = some (read.reverse ++ items, rest)
  | .members members, chars => ∀ fuel read rest, chars.length ≤ fuel →
      readMembers fuel read (chars ++ rest) = some (read.reverse ++ members, rest)

theorem Reads.between {value : Json} {before chars behind : List Char} (reads : Reads (.value value) chars)
    (ahead : IsBlank before) (after : IsBlank behind) (fuel : Nat) (enough : chars.length ≤ fuel) {c : Char}
    (stops : goesOn c = false) (rest : List Char) :
    readValue fuel (before ++ (chars ++ (behind ++ c :: rest))) = some (value, behind ++ c :: rest) := by
  rw [readValue_blanks ahead]
  exact reads fuel _ enough (ends_behind after stops rest)

/-- Each value takes one step of the fuel. -/
theorem Reads.step {value : Json} {c : Char} {chars : List Char}
    (read : ∀ fuel rest, chars.length ≤ fuel → Ends rest →
      readValue (fuel + 1) (c :: (chars ++ rest)) = some (value, rest)) : Reads (.value value) (c :: chars) := by
  intro fuel rest enough ends
  obtain ⟨fuel, rfl⟩ := Nat.exists_eq_add_of_le' (Nat.le_trans (Nat.le_add_left ..) enough : 1 ≤ fuel)
  exact read fuel rest (Nat.le_of_succ_le_succ enough) ends

theorem reads_number {value : Json} {c : Char} {number : List Char} (first : isDigit c = true ∨ c = '-')
    (read : ∀ rest, Ends rest → readNumber (c :: (number ++ rest)) = some (value, rest)) :
    Reads (.value value) (c :: number) := by
  refine .step fun fuel rest _ ends => ?_
  rw [readValue_number first, read rest ends]

theorem reads_unsigned {value : Json} {whole : Nat} {more : List Char}
    (read : ∀ rest, Ends rest → readUnsigned (Nat.toDigits 10 whole ++ more ++ rest) = some (value, rest)) :
    Reads (.value value) (Nat.toDigits 10 whole ++ more) := by
  have all := (isDigits_toDigits whole).all
  obtain ⟨c, digits, same⟩ := List.exists_cons_of_ne_nil (Nat.toDigits_ne_nil (n := whole) (b := 10))
  rw [same] at all read ⊢
  have digit := all c List.mem_cons_self
  refine reads_number (.inl digit) fun rest ends => ?_
  have plain : readNumber (c :: (digits ++ more ++ rest)) = readUnsigned (c :: (digits ++ more ++ rest)) := by
    rw [readNumber]
    rintro _ ⟨⟩
    cases digit
  exact plain.trans (read rest ends)

theorem Reads.item_last {item : Json} {before chars behind : List Char} (reads : Reads (.value item) chars)
    (ahead : IsBlank before) (after : IsBlank behind) {fuel : Nat} (enough : chars.length ≤ fuel) (read : List Json)
    (rest : List Char) :
    readItems (fuel + 1) read (before ++ (chars ++ (behind ++ ']' :: rest))) = some ((item :: read).reverse, rest) := by
  have value := reads.between ahead after fuel enough (c := ']') rfl rest
  simp only [readItems, value, skipSpace_append after]
  simp [skipSpace_cons (c := ']') rfl]

theorem Reads.item_next {item : Json} {before chars behind : List Char} (reads : Reads (.value item) chars)
    (ahead : IsBlank before) (after : IsBlank behind) {fuel : Nat} (enough : chars.length ≤ fuel) (read : List Json)
    (rest : List Char) :
    readItems (fuel + 1) read (before ++ (chars ++ (behind ++ ',' :: rest))) = readItems fuel (item :: read) rest := by
  have value := reads.between ahead after fuel enough (c := ',') rfl rest
  simp only [readItems, value, skipSpace_append after]
  simp [skipSpace_cons (c := ',') rfl]

section Members

variable {units : List StringUnit} {value : Json} {before name between gap chars behind : List Char} {fuel : Nat}

theorem Reads.member_last (reads : Reads (.value value) chars) (ahead : IsBlank before) (named : SpellsAll units name)
    (blank : IsBlank between) (space : IsBlank gap) (after : IsBlank behind) (enough : chars.length ≤ fuel)
    (read : List (Option String × Json)) (rest : List Char) :
    readMembers (fuel + 1) read
        (before ++ '"' :: (name ++ '"' :: (between ++ ':' :: (gap ++ (chars ++ (behind ++ '\x7d' :: rest)))))) =
      some ((((charsOf? units).map String.ofList, value) :: read).reverse, rest) := by
  have given := reads.between space after fuel enough (c := '\x7d') rfl rest
  simp only [readMembers, skipSpace_append ahead, skipSpace_cons (c := '"') rfl, named.read, skipSpace_append blank,
    skipSpace_cons (c := ':') rfl, given, skipSpace_append after, skipSpace_cons (c := '\x7d') rfl]

theorem Reads.member_next (reads : Reads (.value value) chars) (ahead : IsBlank before) (named : SpellsAll units name)
    (blank : IsBlank between) (space : IsBlank gap) (after : IsBlank behind) (enough : chars.length ≤ fuel)
    (read : List (Option String × Json)) (rest : List Char) :
    readMembers (fuel + 1) read
        (before ++ '"' :: (name ++ '"' :: (between ++ ':' :: (gap ++ (chars ++ (behind ++ ',' :: rest)))))) =
      readMembers fuel (((charsOf? units).map String.ofList, value) :: read) rest := by
  have given := reads.between space after fuel enough (c := ',') rfl rest
  simp only [readMembers, skipSpace_append ahead, skipSpace_cons (c := '"') rfl, named.read, skipSpace_append blank,
    skipSpace_cons (c := ':') rfl, given, skipSpace_append after, skipSpace_cons (c := ',') rfl]

end Members

theorem Written.reads {phrase : Phrase} {chars : List Char} (written : Written phrase chars) : Reads phrase chars := by
  induction written with
  | null | true | false => exact .step fun _ _ _ _ => rfl
  | natural value =>
    rw [← List.append_nil (Nat.toDigits 10 value)]
    refine reads_unsigned fun rest ends => ?_
    simpa using readUnsigned_append value .absent .absent ends
  | positive value places power other =>
    refine reads_unsigned fun rest ends => ?_
    simpa [other] using readUnsigned_append value places power ends
  | negative value places power =>
    refine reads_number (.inr rfl) fun rest ends => ?_
    rw [readNumber, List.append_assoc, List.append_assoc, readUnsigned_append value places power ends]
    rfl
  | string spells =>
    refine .step fun fuel rest _ _ => ?_
    rw [readValue, skipSpace_cons rfl]
    simp [spells.read]
  | emptyArray blank =>
    refine .step fun fuel rest _ _ => ?_
    rw [readValue, skipSpace_cons rfl]
    simp [skipSpace_append blank, skipSpace_cons (c := ']') rfl]
  | emptyObject blank =>
    refine .step fun fuel rest _ _ => ?_
    rw [readValue, skipSpace_cons rfl]
    simp [skipSpace_append blank, skipSpace_cons (c := '\x7d') rfl]
  | @array items chars inner ih =>
    refine .step fun fuel rest enough _ => ?_
    have read := ih fuel [] rest enough
    obtain ⟨c, more, starts, other⟩ := inner.first_item rest
    rw [← readItems_skipSpace, starts] at read
    rw [readValue, skipSpace_cons rfl]
    simp [starts, other, read]
  | @object members chars inner ih =>
    refine .step fun fuel rest enough _ => ?_
    have read := ih fuel [] rest enough
    obtain ⟨more, starts⟩ := inner.first_member rest
    rw [← readMembers_skipSpace, starts] at read
    rw [readValue, skipSpace_cons rfl]
    simp [starts, read]
  | lastItem ahead first after ih =>
    intro fuel read rest enough
    simp only [List.length_append, List.length_cons, List.length_nil] at enough
    obtain ⟨fuel, rfl⟩ := Nat.exists_eq_add_of_le' (by omega : 1 ≤ fuel)
    simpa using ih.item_last ahead after (by omega : _ ≤ fuel) read rest
  | @item item items before chars behind more ahead first after others ih ih_others =>
    intro fuel read rest enough
    simp only [List.length_append, List.length_cons] at enough
    obtain ⟨fuel, rfl⟩ := Nat.exists_eq_add_of_le' (by omega : 1 ≤ fuel)
    have value := ih.item_next ahead after (by omega : _ ≤ fuel) read (more ++ rest)
    have next := ih_others fuel (item :: read) rest (by omega)
    simpa [next] using value
  | lastMember ahead named blank space first after ih =>
    intro fuel read rest enough
    simp only [List.length_append, List.length_cons, List.length_nil] at enough
    obtain ⟨fuel, rfl⟩ := Nat.exists_eq_add_of_le' (by omega : 1 ≤ fuel)
    simpa using ih.member_last ahead named blank space after (by omega : _ ≤ fuel) read rest
  | @member units value members before name between gap chars behind more ahead named blank space first after others ih
      ih_others =>
    intro fuel read rest enough
    simp only [List.length_append, List.length_cons] at enough
    obtain ⟨fuel, rfl⟩ := Nat.exists_eq_add_of_le' (by omega : 1 ≤ fuel)
    have given := ih.member_next ahead named blank space after (by omega : _ ≤ fuel) read (more ++ rest)
    have next := ih_others fuel (((charsOf? units).map String.ofList, value) :: read) rest (by omega)
    simpa [next] using given

end Values

section Texts

variable {value : Json} {text : String}

def IsText (value : Json) (text : String) : Prop :=
  ∃ before chars behind, IsBlank before ∧ Written (.value value) chars ∧ IsBlank behind ∧
    text.toList = before ++ (chars ++ behind)

theorem IsBlank.ends {blanks : List Char} (blank : IsBlank blanks) : Ends blanks := by
  intro c first
  have stops := ends_behind blank (c := ' ') rfl []
  cases blanks with
  | nil => cases first
  | cons _ blanks => exact stops c first

/-- Every text of a value is read as the value. -/
theorem parse?_of_isText (spelled : IsText value text) : parse? text = some value := by
  obtain ⟨before, chars, behind, ahead, written, after, same⟩ := spelled
  have enough : chars.length ≤ text.length + 1 := by
    rw [← String.length_toList, same]
    simp only [List.length_append]
    omega
  have read := written.reads (text.length + 1) behind enough after.ends
  have left := skipSpace_append after []
  rw [List.append_nil] at left
  simp only [parse?, same, readValue_blanks ahead, read, left]
  rfl

end Texts

section Printing

theorem writeText_eq (text : Option String) :
    ∃ units chars, SpellsAll units chars ∧ (charsOf? units).map String.ofList = text ∧
      writeText text = '"' :: (chars ++ ['"']) := by
  cases text with
  | none => exact ⟨_, _, .cons (.number 'd' '8' '0' '0' 0xd800 (by decide)) .nil, rfl, by decide⟩
  | some text =>
    obtain ⟨units, spells, known⟩ := spells_escaped text.toList
    exact ⟨units, _, spells, by simp [known], rfl⟩

theorem Written.cast {phrase : Phrase} {chars same : List Char} (written : Written phrase chars) (eq : chars = same) :
    Written phrase same := eq ▸ written

theorem written_text (text : Option String) : Written (.value (.string text)) (writeText text) := by
  obtain ⟨units, chars, spells, rfl, same⟩ := writeText_eq text
  rw [same]
  exact .string spells

theorem isBlank_nil : IsBlank [] := by simp [IsBlank]

theorem isBlank_one : IsBlank [' '] := by simp [IsBlank, isSpace]

theorem isBlank_newLine (depth : Nat) : IsBlank (newLine depth) := by
  intro c inside
  rcases List.mem_cons.mp inside with rfl | inside
  · rfl
  · rw [List.eq_of_mem_replicate inside]
    rfl

mutual

/-- The printer on one line spells values. -/
theorem written_write : (value : Json) → Written (.value value) (write value)
  | .null => .null
  | .bool true => .true
  | .bool false => .false
  | .natural value => (Written.natural value).cast (by simp [write])
  | .otherNumber => (Written.negative 0 .absent .absent).cast (by simp [write])
  | .string text => written_text text
  | .array [] => .emptyArray isBlank_nil
  | .array (item :: items) => .array (written_writeItems (item :: items) nofun)
  | .object [] => .emptyObject isBlank_nil
  | .object (member :: members) => .object (written_writeMembers (member :: members) nofun)

theorem written_writeItems : (items : List Json) → items ≠ [] → Written (.items items) (writeItems items)
  | [item], _ => (Written.lastItem isBlank_nil (written_write item) isBlank_nil).cast (by simp [writeItems])
  | item :: next :: items, _ =>
    (Written.item isBlank_nil (written_write item) isBlank_nil (written_writeItems (next :: items) nofun)).cast
      (by simp [writeItems])

theorem written_writeMembers : (members : List (Option String × Json)) → members ≠ [] →
    Written (.members members) (writeMembers members)
  | [(name, value)], _ => by
    obtain ⟨units, chars, spells, rfl, same⟩ := writeText_eq name
    refine (Written.lastMember isBlank_nil spells isBlank_nil isBlank_nil (written_write value) isBlank_nil).cast ?_
    simp [writeMembers, same]
  | (name, value) :: next :: members, _ => by
    obtain ⟨units, chars, spells, rfl, same⟩ := writeText_eq name
    refine (Written.member isBlank_nil spells isBlank_nil isBlank_nil (written_write value) isBlank_nil
      (written_writeMembers (next :: members) nofun)).cast ?_
    simp [writeMembers, same]

end

mutual

theorem written_writeAt (depth : Nat) : (value : Json) → Written (.value value) (writeAt depth value)
  | .null => written_write .null
  | .bool value => written_write (.bool value)
  | .natural value => written_write (.natural value)
  | .otherNumber => written_write .otherNumber
  | .string text => written_text text
  | .array [] => .emptyArray isBlank_nil
  | .array (item :: items) =>
    (Written.array (written_writeItemsAt (depth + 1) (isBlank_newLine depth) (item :: items) nofun)).cast
      (by simp [writeAt])
  | .object [] => .emptyObject isBlank_nil
  | .object (member :: members) =>
    (Written.object (written_writeMembersAt (depth + 1) (isBlank_newLine depth) (member :: members) nofun)).cast
      (by simp [writeAt])

theorem written_writeItemsAt (depth : Nat) {ending : List Char} (blank : IsBlank ending) :
    (items : List Json) → items ≠ [] → Written (.items items) (writeItemsAt depth items ++ (ending ++ [']']))
  | [item], _ =>
    (Written.lastItem (isBlank_newLine depth) (written_writeAt depth item) blank).cast (by simp [writeItemsAt])
  | item :: next :: items, _ =>
    (Written.item (isBlank_newLine depth) (written_writeAt depth item) isBlank_nil
      (written_writeItemsAt depth blank (next :: items) nofun)).cast (by simp [writeItemsAt])

theorem written_writeMembersAt (depth : Nat) {ending : List Char} (blank : IsBlank ending) :
    (members : List (Option String × Json)) → members ≠ [] →
    Written (.members members) (writeMembersAt depth members ++ (ending ++ ['\x7d']))
  | [(name, value)], _ => by
    obtain ⟨units, chars, spells, rfl, same⟩ := writeText_eq name
    refine (Written.lastMember (isBlank_newLine depth) spells isBlank_nil isBlank_one
      (written_writeAt depth value) blank).cast ?_
    simp [writeMembersAt, same]
  | (name, value) :: next :: members, _ => by
    obtain ⟨units, chars, spells, rfl, same⟩ := writeText_eq name
    refine (Written.member (isBlank_newLine depth) spells isBlank_nil isBlank_one
      (written_writeAt depth value) isBlank_nil (written_writeMembersAt depth blank (next :: members) nofun)).cast ?_
    simp [writeMembersAt, same]

end

theorem isText_compact (value : Json) : IsText value value.compact :=
  ⟨[], _, [], isBlank_nil, written_write value, isBlank_nil, by simp [compact]⟩

theorem isText_pretty (value : Json) : IsText value value.pretty :=
  ⟨[], _, [], isBlank_nil, written_writeAt 0 value, isBlank_nil, by simp [pretty]⟩

end Printing

end UnitCache.Json
