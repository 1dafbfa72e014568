import Lexical.Line
import Lexical.Proofs.Position
import Mathlib.Data.List.DropRight

/-! Positions and the lines of a text.

A text splits at its line feeds into as many lines as it has line feeds, and one more. The position
behind a part of the text names a line and a column in it, and no other part has that position. -/
namespace Lexical

/-- What stands behind the last line feed. -/
def lastLine (text : List Char) : List Char := text.rtakeWhile (· != '\n')

/-- What stands before the first line feed. -/
def firstLine (text : List Char) : List Char := text.takeWhile (· != '\n')

variable {text as bs : List Char} {p : Position}

theorem clean_lastLine (text : List Char) : '\n' ∉ lastLine text := by
  intro mem
  simpa using List.mem_rtakeWhile_imp mem

theorem clean_firstLine (text : List Char) : '\n' ∉ firstLine text := by
  intro mem
  simpa using List.mem_takeWhile_imp mem

theorem lastLine_append (clean : '\n' ∉ bs) : lastLine (as ++ bs) = lastLine as ++ bs := by
  have all : ∀ c ∈ bs.reverse, (c != '\n') = true := by
    intro c mem
    simpa using fun is : c = '\n' => clean (by simpa [is] using mem)
  rw [lastLine, List.rtakeWhile, List.reverse_append, List.takeWhile_append_of_pos all]
  simp [lastLine, List.rtakeWhile]

theorem lastLine_of_clean (clean : '\n' ∉ text) : lastLine text = text := by
  have whole : lastLine ([] ++ text) = lastLine [] ++ text := lastLine_append clean
  simpa [lastLine] using whole

theorem lastLine_lineFeed (as bs : List Char) : lastLine (as ++ '\n' :: bs) = lastLine bs := by
  induction bs using List.reverseRecOn with
  | nil => simp [lastLine]
  | append_singleton bs c ih =>
    rw [← List.cons_append, ← List.append_assoc]
    by_cases feed : c = '\n'
    · simp [lastLine, feed]
    · have clean : '\n' ∉ [c] := by simpa using Ne.symm feed
      rw [lastLine_append clean, lastLine_append clean, ih]

/-- A text is one line, or its last line stands behind a line feed. -/
theorem lastLine_cases (text : List Char) :
    '\n' ∉ text ∨ ∃ before, text = before ++ '\n' :: lastLine text := by
  induction text using List.reverseRecOn with
  | nil => exact .inl (by simp)
  | append_singleton text c ih =>
    by_cases feed : c = '\n'
    · exact .inr ⟨text, by simp [lastLine, feed]⟩
    · have one : '\n' ∉ [c] := by simpa using Ne.symm feed
      rcases ih with clean | ⟨before, split⟩
      · exact .inl (by simpa [clean] using Ne.symm feed)
      · refine .inr ⟨before, ?_⟩
        rw [lastLine_append one, ← List.cons_append, ← List.append_assoc, ← split]

theorem firstLine_append (clean : '\n' ∉ as) : firstLine (as ++ bs) = as ++ firstLine bs := by
  apply List.takeWhile_append_of_pos
  intro c mem
  simpa using fun is : c = '\n' => clean (is ▸ mem)

/-- What stands at the end of the first part is the head of the second. -/
theorem getElem?_behind {α : Type} (before rest : List α) :
    (before ++ rest)[before.length]? = rest.head? := by
  rw [List.getElem?_append_right (Nat.le_refl _), Nat.sub_self, List.head?_eq_getElem?]

theorem length_splitOn (text : List Char) :
    (text.splitOn '\n').length = text.count '\n' + 1 := by
  induction text with
  | nil => rfl
  | cons c cs ih =>
    rw [List.splitOn_cons_eq_if_modifyHead]
    by_cases feed : c = '\n' <;> simp [feed, ih]

theorem head?_splitOn (text : List Char) : (text.splitOn '\n').head? = some (firstLine text) := by
  induction text with
  | nil => rfl
  | cons c cs ih =>
    rw [List.splitOn_cons_eq_if_modifyHead]
    by_cases feed : c = '\n' <;> simp [feed, ih, firstLine]

/-- The line that runs on from one part of a text into the other. -/
theorem getElem?_splitOn (as bs : List Char) :
    ((as ++ bs).splitOn '\n')[as.count '\n']? = some (lastLine as ++ firstLine bs) := by
  rcases lastLine_cases as with clean | ⟨before, split⟩
  · rw [List.count_eq_zero.mpr clean, ← List.head?_eq_getElem?, head?_splitOn,
      firstLine_append clean, lastLine_of_clean clean]
  · have clean := clean_lastLine as
    generalize lastLine as = line at split clean
    have count : as.count '\n' = (before.splitOn '\n').length := by
      simp [split, length_splitOn, List.count_eq_zero.mpr clean]
    rw [count, split, List.append_assoc, List.cons_append, List.splitOn_append_cons_self,
      getElem?_behind, head?_splitOn, firstLine_append clean]

namespace Position

theorem Marks.column_eq (h : p.Marks text) : p.column.toNat = (lastLine text).length + 1 := by
  simp [h.column, lastLine, List.rtakeWhile]

/-- The line that a position names. -/
theorem Marks.line?_eq {source : String} (h : p.Marks as) (split : source.toList = as ++ bs) :
    line? source p.line =
      some (String.ofList (Text.trimEndWhile (· == '\r') (lastLine as ++ firstLine bs))) := by
  have counted : p.line ≠ 0 := by
    intro none
    have := h.line
    simp [none] at this
  rw [line?, if_neg counted, split, h.line, Nat.add_sub_cancel, getElem?_splitOn]
  rfl

/-- Every character read changes the position. -/
theorem Marks.nil_of_append (h : p.Marks as) (h' : p.Marks (as ++ bs)) : bs = [] := by
  have lines := h.line.symm.trans h'.line
  have clean : '\n' ∉ bs := by
    rw [List.count_append] at lines
    exact List.count_eq_zero.mp (by omega)
  have columns := h.column_eq.symm.trans h'.column_eq
  rw [lastLine_append clean, List.length_append] at columns
  exact List.length_eq_zero_iff.mp (by omega)

theorem Marks.unique {i j : Nat} (hi : p.Marks (text.take i)) (hj : p.Marks (text.take j))
    (within : i ≤ text.length) (within' : j ≤ text.length) : i = j := by
  wlog le : i ≤ j generalizing i j
  · exact (this hj hi within' within (by omega)).symm
  · have split := List.take_append_drop i (text.take j)
    rw [List.take_take, Nat.min_eq_left le] at split
    have nothing := congrArg List.length (hi.nil_of_append (split.symm ▸ hj))
    simp only [List.length_drop, List.length_take, List.length_nil] at nothing
    omega

end Position

end Lexical
