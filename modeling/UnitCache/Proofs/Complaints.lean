import Mathlib.Data.List.Infix
import Mathlib.Data.List.TakeWhile
import UnitCache.Clang.DiagnosticLine
import UnitCache.Proofs.Lines
/-!
Complaints read back from the error output of the compiler. A complaint is printed as the name of a file, a head, which
is the line, the column and how grave the complaint is, and a message. It is read by the first head that stands behind
one character or more. Nothing in the message counts, then, and a head that starts in the name ends in it: behind the
name stands a colon with a digit, and a head that was still going on there would want a blank.
-/
namespace UnitCache.Clang

section Heads

def gravity : Severity → String
  | .note => "note"
  | .warning => "warning"
  | .error => "error"
  | .fatal => "fatal error"

def grade (severity : Severity) : List Char := ": ".toList ++ (gravity severity).toList ++ ": ".toList

/-- What stands between the name of a file and the message; the line and the column are given by their digits. -/
def head (line column : List Char) (severity : Severity) : List Char :=
  ':' :: line ++ ':' :: column ++ grade severity

def IsNumber (digits : List Char) : Prop := digits ≠ [] ∧ ∀ c ∈ digits, Text.isDecimal c = true

/-- No head stands anywhere in a text. -/
def HeadFree (text : List Char) : Prop :=
  ∀ line column severity, IsNumber line → IsNumber column → ¬head line column severity <:+: text

/-- A text with nothing that goes on a number. -/
def Halts (text : List Char) : Prop := ∀ c ∈ text.head?, Text.isDecimal c = false

theorem halts_cons {c : Char} (other : Text.isDecimal c = false) (text : List Char) : Halts (c :: text) := by
  simpa [Halts] using other

variable {digits line column text rest message : List Char} {severity : Severity} {complaint : Complaint}

theorem takeWhile_append (halts : Halts rest) :
    (text ++ rest).takeWhile Text.isDecimal = text.takeWhile Text.isDecimal := by
  induction text with
  | nil =>
    cases rest with
    | nil => rfl
    | cons c rest => simp [halts c rfl]
  | cons c text ih => cases digit : Text.isDecimal c <;> simp [digit, ih]

theorem dropWhile_append (halts : Halts rest) :
    (text ++ rest).dropWhile Text.isDecimal = text.dropWhile Text.isDecimal ++ rest := by
  have whole : (text ++ rest).takeWhile Text.isDecimal ++ (text ++ rest).dropWhile Text.isDecimal = text ++ rest :=
    List.takeWhile_append_dropWhile
  rw [takeWhile_append halts] at whole
  refine List.append_cancel_left (whole.trans ?_)
  rw [← List.append_assoc, List.takeWhile_append_dropWhile]

theorem colonNumber?_append (filled : text ≠ []) (halts : Halts rest) :
    colonNumber? (text ++ rest) = (colonNumber? text).map fun (number, left) => (number, left ++ rest) := by
  obtain ⟨c, text, rfl⟩ := List.exists_cons_of_ne_nil filled
  unfold colonNumber?
  split
  next given same =>
    obtain ⟨rfl, rfl⟩ : c = ':' ∧ text ++ rest = given := by simpa using same
    simp only [takeWhile_append halts, dropWhile_append halts]
    split <;> rfl
  next other =>
    split
    next given same => exact absurd (by rw [same]; rfl) (other (given ++ rest))
    next => rfl

theorem colonNumber?_number (number : IsNumber digits) (halts : Halts rest) :
    colonNumber? (':' :: (digits ++ rest)) = some (wordOf digits, rest) := by
  have all : digits.takeWhile Text.isDecimal = digits := List.takeWhile_eq_self_iff.2 number.2
  have none : digits.dropWhile Text.isDecimal = [] := List.dropWhile_eq_nil_iff.2 number.2
  simp [colonNumber?, takeWhile_append halts, dropWhile_append halts, all, none, number.1]

theorem of_colonNumber? {number : UInt32} (read : colonNumber? text = some (number, rest)) :
    ∃ digits, IsNumber digits ∧ text = ':' :: (digits ++ rest) := by
  unfold colonNumber? at read
  split at read
  next given =>
    dsimp only at read
    split at read
    next => cases read
    next filled =>
      obtain ⟨-, rfl⟩ : _ ∧ given.dropWhile Text.isDecimal = rest := by simpa using read
      refine ⟨given.takeWhile Text.isDecimal, ⟨by simpa using filled, fun c inside => ?_⟩, by simp⟩
      exact List.mem_takeWhile_imp inside
  next => cases read

def spaced : List Char → Bool
  | [] => true
  | ':' :: text => text.head? == some ' ' && spaced text
  | _ :: text => spaced text

theorem spaced_marks : ∀ mark ∈ severityMarks, spaced mark.1.toList = true := by decide

theorem marks_eq : ∀ mark ∈ severityMarks, mark.1.toList = grade mark.2 := by decide

theorem spaced_of_append {start : List Char} (blanks : spaced (start ++ rest) = true) : spaced rest = true := by
  induction start with
  | nil => exact blanks
  | cons c start ih =>
    rw [List.cons_append] at blanks
    unfold spaced at blanks
    split at blanks <;> simp_all

theorem append_ne_of_spaced {start : List Char} (blanks : spaced (':' :: start) = true) {c : Char}
    (digit : Text.isDecimal c = true) (left rest : List Char) : start ++ left ≠ c :: rest := by
  intro same
  have next : start.head? = some ' ' := (by simpa [spaced] using blanks : _ ∧ _).1
  obtain ⟨start, rfl⟩ := List.head?_eq_some_iff.mp next
  obtain ⟨rfl, -⟩ : ' ' = c ∧ start ++ left = rest := by simpa using same
  exact absurd digit (by decide)

theorem behind?_append_of_none {start : List Char} (blanks : spaced start = true) {c : Char}
    (digit : Text.isDecimal c = true) (unread : Text.behind? start text = none) :
    Text.behind? start (text ++ ':' :: c :: rest) = none := by
  by_contra read
  obtain ⟨left, read⟩ := Option.ne_none_iff_exists'.mp read
  obtain ⟨more, rfl, same⟩ | ⟨more, rfl, -⟩ := List.append_eq_append_iff.mp (Text.behind?_eq_some.mp read)
  · cases more with
    | nil => simp [Text.behind?_eq_some.mpr (List.append_nil text).symm] at unread
    | cons colon more =>
      obtain ⟨rfl, next⟩ : ':' = colon ∧ c :: rest = more ++ left := by simpa using same
      exact append_ne_of_spaced (spaced_of_append blanks) digit left rest next.symm
  · simp [Text.behind?_append] at unread

theorem graded?_append (unread : graded? text = none) (number : IsNumber digits) (rest : List Char) :
    graded? (text ++ ':' :: (digits ++ rest)) = none := by
  obtain ⟨c, digits, rfl⟩ := List.exists_cons_of_ne_nil number.1
  have digit : Text.isDecimal c = true := number.2 c (List.mem_cons_self ..)
  simp only [graded?, List.findSome?_eq_none_iff, Option.map_eq_none_iff] at unread ⊢
  exact fun mark known => behind?_append_of_none (spaced_marks mark known) digit (unread mark known)

theorem graded?_grade (severity : Severity) (message : List Char) :
    graded? (grade severity ++ message) = some (severity, message) := by
  cases severity <;> cases message <;> rfl

theorem of_graded? (read : graded? text = some (severity, message)) : text = grade severity ++ message := by
  obtain ⟨mark, known, read⟩ := List.exists_of_findSome?_eq_some read
  obtain ⟨left, found, same⟩ := Option.map_eq_some_iff.mp read
  obtain ⟨rfl, rfl⟩ : mark.2 = severity ∧ left = message := by simpa using same
  rw [Text.behind?_eq_some.mp found, marks_eq mark known]

theorem read?_of_numbers {atLine atColumn : UInt32} {afterLine afterColumn : List Char}
    (first : colonNumber? text = some (atLine, afterLine))
    (second : colonNumber? afterLine = some (atColumn, afterColumn)) :
    Complaint.read? text =
      (graded? afterColumn).map fun graded => ⟨atLine, atColumn, graded.1, graded.2⟩ := by
  simp only [Complaint.read?, first, second, Option.bind_eq_bind, Option.bind_some]
  cases graded? afterColumn <;> rfl

theorem head_append (line column message : List Char) (severity : Severity) : head line column severity ++ message =
    ':' :: (line ++ ':' :: (column ++ (grade severity ++ message))) := by simp [head]

theorem halts_colon (text : List Char) : Halts (':' :: text) := halts_cons (by decide) text

theorem halts_grade (severity : Severity) (message : List Char) : Halts (grade severity ++ message) :=
  halts_colon (' ' :: (gravity severity).toList ++ ": ".toList ++ message)

theorem read?_head (severity : Severity) (atLine : IsNumber line) (atColumn : IsNumber column) (message : List Char) :
    Complaint.read? (head line column severity ++ message) = some ⟨wordOf line, wordOf column, severity, message⟩ := by
  rw [head_append, read?_of_numbers (colonNumber?_number atLine (halts_colon _))
    (colonNumber?_number atColumn (halts_grade severity message)), graded?_grade]
  rfl

theorem of_read? (read : Complaint.read? text = some complaint) :
    ∃ line column, IsNumber line ∧ IsNumber column ∧
      text = head line column complaint.severity ++ complaint.message := by
  simp only [Complaint.read?, Option.bind_eq_bind, Option.bind_eq_some_iff] at read
  obtain ⟨⟨line, afterLine⟩, first, ⟨column, afterColumn⟩, second, ⟨severity, message⟩, third, same⟩ := read
  obtain rfl : _ = complaint := Option.some.inj same
  obtain ⟨lineDigits, atLine, rfl⟩ := of_colonNumber? first
  obtain ⟨columnDigits, atColumn, shape⟩ := of_colonNumber? second
  refine ⟨lineDigits, columnDigits, atLine, atColumn, ?_⟩
  dsimp only at third shape
  rw [shape, of_graded? third, head_append]

/-- A text of one character or more that is not read is not read in front of a head either: a number of it does not go
on in the head, and the head starts with a colon and a digit. -/
theorem read?_append_of_none (filled : text ≠ []) (unread : Complaint.read? text = none) (atLine : IsNumber line)
    (atColumn : IsNumber column) (severity : Severity) (message : List Char) :
    Complaint.read? (text ++ (head line column severity ++ message)) = none := by
  rw [head_append]
  cases first : colonNumber? text with
  | none => simp [Complaint.read?, colonNumber?_append filled (halts_colon _), first]
  | some given =>
    obtain ⟨number, left⟩ := given
    have onward := colonNumber?_append filled (halts_colon (line ++ ':' :: (column ++ (grade severity ++ message))))
    rw [first, Option.map_some] at onward
    by_cases done : left = []
    · -- The line of the head is read as the column; its column then stands where a severity is looked for.
      subst done
      have bare : graded? [] = none := rfl
      rw [read?_of_numbers onward (colonNumber?_number atLine (halts_colon _)), Option.map_eq_none_iff]
      exact graded?_append bare atColumn _
    · cases second : colonNumber? left with
      | none => simp [Complaint.read?, onward, colonNumber?_append done (halts_colon _), second]
      | some given =>
        rw [read?_of_numbers first second, Option.map_eq_none_iff] at unread
        have further := colonNumber?_append done (halts_colon (line ++ ':' :: (column ++ (grade severity ++ message))))
        rw [second, Option.map_some] at further
        rw [read?_of_numbers onward further, Option.map_eq_none_iff]
        exact graded?_append unread atLine _

/-- A text is free of heads if it is not read from any place on. -/
theorem headFree_iff : HeadFree text ↔ ∀ rest ∈ text.tails, Complaint.read? rest = none := by
  constructor
  · intro free rest inside
    by_contra read
    obtain ⟨complaint, read⟩ := Option.ne_none_iff_exists'.mp read
    obtain ⟨line, column, atLine, atColumn, rfl⟩ := of_read? read
    exact free line column _ atLine atColumn
      ((List.prefix_append _ _).isInfix.trans ((List.mem_tails _ _).mp inside).isInfix)
  · rintro unread line column severity atLine atColumn ⟨before, after, rfl⟩
    have read := read?_head severity atLine atColumn after
    have inside : head line column severity ++ after ∈ (before ++ head line column severity ++ after).tails :=
      (List.mem_tails _ _).mpr ⟨before, by simp⟩
    rw [unread _ inside] at read
    cases read

instance (text : List Char) : Decidable (HeadFree text) := decidable_of_iff _ headFree_iff.symm

theorem HeadFree.within {part : List Char} (free : HeadFree text) (inside : part <:+: text) : HeadFree part :=
  fun line column severity atLine atColumn stands => free line column severity atLine atColumn (stands.trans inside)

theorem HeadFree.append {start : List Char} (blanks : spaced start = true) (free : HeadFree text) :
    HeadFree (start ++ text) := by
  induction start with
  | nil => exact free
  | cons c start ih =>
    have fewer : spaced start = true := spaced_of_append (List.singleton_append ▸ blanks)
    have later := headFree_iff.mp (ih fewer)
    refine headFree_iff.mpr fun rest inside => ?_
    obtain rfl | inside := List.suffix_cons_iff.mp ((List.mem_tails _ _).mp inside)
    · by_contra read
      obtain ⟨complaint, read⟩ := Option.ne_none_iff_exists'.mp read
      obtain ⟨line, column, atLine, -, shape⟩ := of_read? read
      obtain ⟨digit, digits, rfl⟩ := List.exists_cons_of_ne_nil atLine.1
      rw [head_append] at shape
      obtain ⟨rfl, same⟩ : c = ':' ∧ _ := List.cons.inj shape
      exact append_ne_of_spaced blanks (atLine.2 digit (List.mem_cons_self ..)) text _ same
    · exact later rest ((List.mem_tails _ _).mpr inside)

end Heads

section Output

def word (number : Nat) : UInt32 := if number < UInt32.size then UInt32.ofNat number else 0

theorem isNumber_toDigits (number : Nat) : IsNumber (Nat.toDigits 10 number) := by
  refine ⟨Nat.toDigits_ne_nil, fun c inside => ?_⟩
  have digit : c.isDigit = true := Nat.isDigit_of_mem_toDigits (by decide) (by decide) inside
  refine List.any_eq_true.mpr ⟨(0x30, 0x39), List.mem_cons_self .., ?_⟩
  simpa [Char.isDigit, UInt32.le_iff_toNat_le] using digit

theorem wordOf_toDigits (number : Nat) : wordOf (Nat.toDigits 10 number) = word number := by
  have digits : (Nat.toDigits 10 number).all Char.isDigit = true :=
    List.all_eq_true.mpr fun c inside => Nat.isDigit_of_mem_toDigits (by decide) (by decide) inside
  have value := Nat.ofDigitChars_toDigits (b := 10) (n := number) (by decide) (by decide)
  simp only [Nat.ofDigitChars, Nat.mul_comm 10] at value
  simp only [wordOf, digits, if_true, value, word]

inductive OutputLine where
  | located (file : String) (line column : Nat) (severity : Severity) (message : String)
  | driver (message : String)
  | noise (text : String)
  deriving DecidableEq, Repr

def OutputLine.text : OutputLine → List Char
  | .located file line column severity message =>
    file.toList ++ (head (Nat.toDigits 10 line) (Nat.toDigits 10 column) severity ++ message.toList)
  | .driver message => ("clang: error: " ++ message).toList
  | .noise text => text.toList

def OutputLine.remark? : OutputLine → Option Diagnostic
  | .located file line column severity message => some ⟨severity, some ⟨file, word line, word column⟩, message⟩
  | .driver message => some ⟨.fatal, none, message⟩
  | .noise _ => none

def IsMessage (message : String) : Prop := '\n' ∉ message.toList ∧ message.toList.getLast? ≠ some '\r'

/-- A line that says what it is: no name of a file holds a head after its first character, no message of the driver
holds one, and noise is neither a head with something in front of it nor a message of the driver. -/
def OutputLine.Proper : OutputLine → Prop
  | .located file _ _ _ message =>
    file ≠ "" ∧ '\n' ∉ file.toList ∧ HeadFree file.toList.tail ∧ IsMessage message
  | .driver message => HeadFree message.toList ∧ IsMessage message
  | .noise text => '\n' ∉ text.toList ∧ HeadFree text.toList.tail ∧ ¬"clang: error: ".toList <+: text.toList

instance (message : String) : Decidable (IsMessage message) := inferInstanceAs (Decidable (_ ∧ _))

instance : DecidablePred OutputLine.Proper
  | .located .. => inferInstanceAs (Decidable (_ ∧ _ ∧ _ ∧ _))
  | .driver _ => inferInstanceAs (Decidable (_ ∧ _))
  | .noise _ => inferInstanceAs (Decidable (_ ∧ _ ∧ _))

def lineEnd (returns : Bool) : List Char := if returns then ['\r', '\n'] else ['\n']

def output (lines : List (OutputLine × Bool)) : String :=
  String.ofList (lines.flatMap fun line => line.1.text ++ lineEnd line.2)

variable {file passed rest : List Char} {c : Char}

theorem locate?_append (unread : ∀ part, part <:+ passed → part ≠ [] → Complaint.read? (part ++ rest) = none) :
    locate? file (passed ++ rest) = locate? (passed.reverse ++ file) rest := by
  induction passed generalizing file with
  | nil => rfl
  | cons c passed ih =>
    have here : Complaint.read? (c :: (passed ++ rest)) = none :=
      unread _ (List.suffix_refl _) (List.cons_ne_nil c passed)
    have onward : locate? (c :: file) (passed ++ rest) = locate? (passed.reverse ++ c :: file) rest :=
      ih fun part inside => unread part (inside.trans (List.suffix_cons ..))
    simp [locate?, here, onward]

theorem locate?_cons (c : Char) (text : List Char) : locate? [] (c :: text) = locate? [c] text := rfl

theorem locate?_eq_none_of_filled (filled : file ≠ []) (text : List Char) :
    locate? file text = none ↔ ∀ rest ∈ text.tails, Complaint.read? rest = none := by
  induction text generalizing file with
  | nil => exact ⟨fun _ rest inside => by rw [List.mem_singleton.mp inside]; rfl, fun _ => rfl⟩
  | cons c text ih =>
    have passed : file.isEmpty = false := by simpa using filled
    rw [locate?, passed, List.tails, List.forall_mem_cons, ← ih (List.cons_ne_nil c file)]
    cases Complaint.read? (c :: text) <;> simp

/-- A text is a located complaint if there is a head after its first character, and only then. -/
theorem locate?_eq_none {text : List Char} : locate? [] text = none ↔ HeadFree text.tail := by
  cases text with
  | nil => exact iff_of_true rfl (by decide)
  | cons c text => rw [locate?_cons, locate?_eq_none_of_filled (by simp), ← headFree_iff, List.tail_cons]

/-- The first head behind the name of a file is the one that was printed. -/
theorem locate?_head {line column : List Char} (free : HeadFree file) (severity : Severity) (atLine : IsNumber line)
    (atColumn : IsNumber column) (message : List Char) :
    locate? [] (c :: file ++ (head line column severity ++ message)) =
      some (c :: file, ⟨wordOf line, wordOf column, severity, message⟩) := by
  have passes : locate? [c] (file ++ (head line column severity ++ message)) =
      locate? (file.reverse ++ [c]) (head line column severity ++ message) :=
    locate?_append fun part inside filled => read?_append_of_none filled
      (headFree_iff.mp free part ((List.mem_tails _ _).mpr inside)) atLine atColumn severity message
  have read := read?_head severity atLine atColumn message
  rw [head_append] at passes read ⊢
  rw [List.cons_append, locate?_cons, passes]
  simp [locate?, read]

theorem diagnostic?_located {file message : String} {line column : Nat} {severity : Severity}
    (proper : (OutputLine.located file line column severity message).Proper) :
    diagnostic? (OutputLine.located file line column severity message).text =
      (OutputLine.located file line column severity message).remark? := by
  obtain ⟨filled, -, free, -⟩ := proper
  obtain ⟨c, name, same⟩ := List.exists_cons_of_ne_nil (mt String.toList_eq_nil_iff.mp filled)
  rw [same, List.tail_cons] at free
  have found := locate?_head (c := c) free severity (isNumber_toDigits line) (isNumber_toDigits column) message.toList
  simp only [OutputLine.text, OutputLine.remark?, diagnostic?, same, found, wordOf_toDigits]
  simp [← same]

theorem diagnostic?_of_unlocated {text : List Char} (unlocated : locate? [] text = none) :
    diagnostic? text = (Text.behind? "clang: error: ".toList text).map fun message =>
      ⟨.fatal, none, String.ofList message⟩ := by
  rw [diagnostic?, unlocated]

theorem diagnostic?_driver {message : String} (free : HeadFree message.toList) :
    diagnostic? (OutputLine.driver message).text = (OutputLine.driver message).remark? := by
  have shape : "clang: error: ".toList = 'c' :: "lang: error: ".toList := rfl
  have passed : HeadFree ("lang: error: ".toList ++ message.toList) := free.append (by decide)
  rw [OutputLine.text, String.toList_append]
  rw [diagnostic?_of_unlocated, Text.behind?_append, Option.map_some, String.ofList_toList, OutputLine.remark?]
  rw [shape]
  exact locate?_eq_none.mpr passed

theorem diagnostic?_eq_none {text : List Char} :
    diagnostic? text = none ↔ HeadFree text.tail ∧ ¬"clang: error: ".toList <+: text := by
  cases found : locate? [] text with
  | some located =>
    have headed : ¬HeadFree text.tail := fun free => by simp [locate?_eq_none.mpr free] at found
    exact iff_of_false (by simp [diagnostic?, found]) fun noise => headed noise.1
  | none =>
    have free := locate?_eq_none.mp found
    have driven : Text.behind? "clang: error: ".toList text = none ↔ ¬"clang: error: ".toList <+: text := by
      rw [Option.eq_none_iff_forall_ne_some, List.IsPrefix, not_exists]
      exact forall_congr' fun message => not_congr (Text.behind?_eq_some.trans eq_comm)
    rw [diagnostic?_of_unlocated found, Option.map_eq_none_iff, driven]
    exact (and_iff_right free).symm

theorem linesFrom_lineEnd {text : List Char} (whole : '\n' ∉ text) (returns : Bool) (rest : List Char) :
    ∃ line, Text.linesFrom [] (text ++ lineEnd returns ++ rest) = line :: Text.linesFrom [] rest ∧
      line <+: text ∧ (text.getLast? ≠ some '\r' → line = text) := by
  cases returns with
  | true =>
    have inside : '\n' ∉ text ++ ['\r'] := by simpa using whole
    have read := Text.linesFrom_append inside [] rest
    rw [List.append_nil, Text.endLine_return] at read
    exact ⟨text, by simpa [lineEnd] using read, List.prefix_rfl, fun _ => rfl⟩
  | false =>
    have read := Text.linesFrom_append whole [] rest
    rw [List.append_nil] at read
    exact ⟨_, by simpa [lineEnd] using read, Text.endLine_starts text, Text.endLine_of_getLast?⟩

theorem not_mem_head {line column : List Char} (severity : Severity) (atLine : IsNumber line)
    (atColumn : IsNumber column) : '\n' ∉ head line column severity := by
  have digit : Text.isDecimal '\n' = false := by decide
  have graded : '\n' ∉ grade severity := by cases severity <;> decide
  have inLine : '\n' ∉ line := fun inside => by simp [atLine.2 _ inside] at digit
  have inColumn : '\n' ∉ column := fun inside => by simp [atColumn.2 _ inside] at digit
  simp [head, inLine, inColumn, graded]

theorem IsMessage.ends {message : String} (own : IsMessage message) {start : List Char}
    (ends : start.getLast? ≠ some '\r') : (start ++ message.toList).getLast? ≠ some '\r' := by
  rw [List.getLast?_append]
  cases last : message.toList.getLast? with
  | none => exact ends
  | some c => rw [Option.some_or, ← last]; exact own.2

theorem getLast?_head (line column : List Char) (severity : Severity) :
    (head line column severity).getLast? = some ' ' := by
  have graded : (grade severity).getLast? = some ' ' := by cases severity <;> rfl
  rw [head, List.getLast?_append, graded, Option.some_or]

theorem OutputLine.Proper.whole {line : OutputLine} (proper : line.Proper) : '\n' ∉ line.text := by
  cases line with
  | located file line column severity message =>
    have headed := not_mem_head severity (isNumber_toDigits line) (isNumber_toDigits column)
    simp [OutputLine.text, proper.2.1, headed, proper.2.2.2.1]
  | driver message =>
    have start : '\n' ∉ "clang: error: ".toList := by decide
    rw [OutputLine.text, String.toList_append, List.mem_append]
    exact fun inside => inside.elim start proper.2.1
  | noise text => exact proper.1

theorem OutputLine.Proper.read {line : OutputLine} (proper : line.Proper) {part : List Char}
    (inside : part <+: line.text) (same : line.text.getLast? ≠ some '\r' → part = line.text) :
    diagnostic? part = line.remark? := by
  cases line with
  | located file line column severity message =>
    have ends := getLast?_head (Nat.toDigits 10 line) (Nat.toDigits 10 column) severity
    rw [same, diagnostic?_located proper]
    rw [OutputLine.text, ← List.append_assoc]
    exact proper.2.2.2.ends (by simp [List.getLast?_append, ends])
  | driver message =>
    rw [same, diagnostic?_driver proper.1]
    rw [OutputLine.text, String.toList_append]
    exact proper.2.ends (by decide)
  | noise text =>
    have later : part.tail <+: (OutputLine.noise text).text.tail := by simpa using List.IsPrefix.drop inside 1
    exact diagnostic?_eq_none.mpr ⟨proper.2.1.within later.isInfix, fun start => proper.2.2 (start.trans inside)⟩

/-- The diagnostics in the error output are those that were printed, in their order: each as grave as it was, at the
place and with the message that it had, whatever its file and its message hold, and whatever stands between. -/
theorem printed_diagnostics_are_read_back {lines : List (OutputLine × Bool)} (proper : ∀ line ∈ lines, line.1.Proper) :
    diagnosticsOf (output lines) = lines.filterMap fun line => line.1.remark? := by
  rw [diagnosticsOf, output, String.toList_ofList]
  induction lines with
  | nil => rfl
  | cons line lines ih =>
    obtain ⟨own, others⟩ := List.forall_mem_cons.mp proper
    obtain ⟨part, cut, inside, same⟩ := linesFrom_lineEnd own.whole line.2
      (lines.flatMap fun line => line.1.text ++ lineEnd line.2)
    rw [List.flatMap_cons, cut, List.filterMap_cons, List.filterMap_cons, own.read inside same, ih others]

/-- A name with colons and numbers, a message with a complaint in it, and a line with a number that is too great. -/
theorem lines_full_of_colons_are_read_back :
    let lines : List (OutputLine × Bool) := [
      (.noise "In file included from b.c:3:", false),
      (.located "b:1:2.c" 4294967295 5 .fatal "a.c:1:2: error: ", true),
      (.noise "    3 | int x = :1:2: 3;", true),
      (.driver "unknown argument: '-f:1:2:'", false),
      (.located ":1:2: note: b.c" 4294967296 0 .note "expanded\rhere", false)]
    (∀ line ∈ lines, line.1.Proper) ∧ diagnosticsOf (output lines) = [
      ⟨.fatal, some ⟨"b:1:2.c", 4294967295, 5⟩, "a.c:1:2: error: "⟩,
      ⟨.fatal, none, "unknown argument: '-f:1:2:'"⟩,
      ⟨.note, some ⟨":1:2: note: b.c", 0, 0⟩, "expanded\rhere"⟩] := by
  intro lines
  have proper : ∀ line ∈ lines, line.1.Proper := by decide
  exact ⟨proper, printed_diagnostics_are_read_back proper⟩

end Output

end UnitCache.Clang
