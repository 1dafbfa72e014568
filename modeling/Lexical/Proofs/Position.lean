import Lexical.Position

/-! Positions that count exactly. -/
namespace Lexical.Position

/-- The position is the true place behind `text`: no count went round. -/
structure Marks (p : Position) (text : List Char) : Prop where
  line : p.line.toNat = text.count '\n' + 1
  column : p.column.toNat = (text.reverse.takeWhile (· != '\n')).length + 1

/-- Neither the line feeds nor the characters behind the last of them are more than all. -/
theorem counts_le (text : List Char) :
    text.count '\n' ≤ text.length ∧
      (text.reverse.takeWhile (· != '\n')).length ≤ text.length := by
  have column := (List.takeWhile_prefix (l := text.reverse) (· != '\n')).length_le
  rw [List.length_reverse] at column
  exact ⟨List.count_le_length, column⟩

theorem Marks.le {p : Position} {text : List Char} (h : p.Marks text) :
    p.line.toNat ≤ text.length + 1 ∧ p.column.toNat ≤ text.length + 1 := by
  have counts := counts_le text
  rw [h.line, h.column]
  omega

/-- A 32-bit word has room for the lines and columns of a text of fewer than 2^32 - 1 characters. -/
theorem marks_behind {text : List Char} (small : text.length + 1 < UInt32.size) :
    (behind text).Marks text := by
  obtain ⟨lines, columns⟩ := counts_le text
  constructor
  · exact UInt32.toNat_ofNat_of_lt' (by omega)
  · exact UInt32.toNat_ofNat_of_lt' (by omega)

theorem marks_iff {p : Position} {text : List Char} (small : text.length + 1 < UInt32.size) :
    p.Marks text ↔ p = behind text := by
  have counted := marks_behind small
  constructor
  · intro h
    obtain ⟨line, column⟩ := p
    have sameLine := UInt32.toNat_inj.mp (h.line.trans counted.line.symm)
    have sameColumn := UInt32.toNat_inj.mp (h.column.trans counted.column.symm)
    exact congr (congrArg Position.mk sameLine) sameColumn
  · rintro rfl
    exact counted

end Lexical.Position
