import Mathlib.Data.List.Basic
import UnitCache.Text.Ends
import UnitCache.Text.Lines

namespace UnitCache.Text

theorem linesFrom_append {line : List Char} (whole : '\n' ∉ line) (current rest : List Char) :
    linesFrom current (line ++ '\n' :: rest) = endLine (line.reverse ++ current) :: linesFrom [] rest := by
  induction line generalizing current with
  | nil => simp [linesFrom]
  | cons c line ih =>
    obtain ⟨other, others⟩ : '\n' ≠ c ∧ '\n' ∉ line := by simpa using whole
    simp [linesFrom, other.symm, ih others]

theorem endLine_return (line : List Char) : endLine (line ++ ['\r']).reverse = line := by simp [endLine]

theorem endLine_of_getLast? {line : List Char} (ends : line.getLast? ≠ some '\r') : endLine line.reverse = line := by
  rcases List.eq_nil_or_concat' line with rfl | ⟨init, last, rfl⟩
  · rfl
  · have other : last ≠ '\r' := by simpa using ends
    simp [endLine, other]

theorem endLine_starts (line : List Char) : endLine line.reverse <+: line := by
  rcases List.eq_nil_or_concat' line with rfl | ⟨init, last, rfl⟩
  · exact List.prefix_rfl
  · by_cases returns : last = '\r' <;> simp [endLine, returns]

theorem length_linesFrom (current text : List Char) :
    (linesFrom current text).length =
      text.count '\n' + (text.getLast?.elim (!current.isEmpty) (· != '\n')).toNat := by
  induction text generalizing current with
  | nil => cases current <;> simp [linesFrom]
  | cons c rest ih =>
    by_cases feed : c = '\n'
    · subst feed
      cases last : rest.getLast? <;> simp [linesFrom, ih, List.getLast?_cons, last]
      omega
    · have other : (c != '\n') = true := by simpa using feed
      cases last : rest.getLast? <;> simp [linesFrom, ih, List.getLast?_cons, last, feed, other]

theorem behind?_eq_some {start text rest : List Char} : behind? start text = some rest ↔ text = start ++ rest := by
  induction start generalizing text with
  | nil => cases text <;> simp [behind?]
  | cons expected start ih => cases text <;> simp [behind?, ih]

theorem behind?_append (start rest : List Char) : behind? start (start ++ rest) = some rest := behind?_eq_some.mpr rfl

end UnitCache.Text
