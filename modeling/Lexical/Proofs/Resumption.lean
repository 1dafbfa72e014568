import Lexical.Proofs.Calls
import Lexical.Proofs.Lines
import Lexical.Proofs.Session

/-! Going on with a source, and beginning afresh with what is left of it.

Two scanners with the same text ahead report the same, call for call, whatever they have read before
and whether or not a character was put back. They differ in their positions only, and there by where
the text begins that both have read. -/
namespace Lexical

open Grammar
open Scanner (Between)

/-- The position `p` in a text, as `q` in a source that has the text from `origin` on: only the
first line of the text has a part of the source before it. -/
structure Position.Shifted (origin p q : Position) : Prop where
  line : q.line.toNat = origin.line.toNat + p.line.toNat - 1
  column : q.column.toNat =
    if p.line = 1 then origin.column.toNat + p.column.toNat - 1 else p.column.toNat

/-- Two reports that differ in the position of an error, and there by where the text begins. -/
inductive Outcome.Shifted (origin : Position) : Outcome → Outcome → Prop
  | token (t : Token) : Shifted origin (.token t) (.token t)
  | failure {fault : Fault} {p q : Position} {lexeme : String} (shift : origin.Shifted p q) :
      Shifted origin (.failure ⟨fault, p, lexeme⟩) (.failure ⟨fault, q, lexeme⟩)
  | endOfSource : Shifted origin .endOfSource .endOfSource

variable {as bs before read ahead : List Char} {origin p q : Position} {s t : Scanner}
  {source : String} {file : Option String}

theorem Position.Marks.shifted (first : origin.Marks as) (second : p.Marks bs)
    (both : q.Marks (as ++ bs)) : origin.Shifted p q := by
  have lines : q.line.toNat = origin.line.toNat + p.line.toNat - 1 := by
    rw [both.line, first.line, second.line, List.count_append]
    omega
  refine ⟨lines, ?_⟩
  have one : p.line = 1 ↔ bs.count '\n' = 0 := by
    rw [← UInt32.toNat_inj, second.line]
    exact Nat.succ_inj
  rw [both.column_eq, first.column_eq, second.column_eq]
  rcases lastLine_cases bs with clean | ⟨before, split⟩
  · rw [if_pos (one.mpr (List.count_eq_zero.mpr clean)), lastLine_append clean,
      lastLine_of_clean clean, List.length_append]
    omega
  · have more : p.line ≠ 1 := by
      intro first
      have none := one.mp first
      rw [split] at none
      simp at none
    rw [if_neg more]
    have same : lastLine (as ++ bs) = lastLine bs := by
      calc
        lastLine (as ++ bs) = lastLine (as ++ before ++ '\n' :: lastLine bs) := by
          rw [List.append_assoc, ← split]
        _ = lastLine bs := by rw [lastLine_lineFeed, lastLine_of_clean (clean_lastLine bs)]
    rw [same]

theorem Position.shifted_behind (small : (as ++ bs).length + 1 < UInt32.size) :
    (behind as).Shifted (behind bs) (behind (as ++ bs)) := by
  have sizes : (as ++ bs).length = as.length + bs.length := List.length_append
  exact (marks_behind (by omega)).shifted (marks_behind (by omega)) (marks_behind small)

namespace Scanner.Between

/-- Both scanners have `before` behind them and the same ahead, and one has something else behind
that. They report the same and move by the same. -/
theorem nextToken_shifted (h : s.Between before ahead) (h' : t.Between (read ++ before) ahead)
    (small : (read ++ before ++ ahead).length + 1 < UInt32.size) :
    Outcome.Shifted (.behind read) s.nextToken.outcome t.nextToken.outcome ∧
      ∃ taken rest, ahead = taken ++ rest ∧ s.nextToken.scanner.Between (before ++ taken) rest ∧
        t.nextToken.scanner.Between (read ++ (before ++ taken)) rest := by
  cases meets ahead with
  | endOfSource final =>
    obtain ⟨outcome, between⟩ := h.nextToken_of_finalTrivia final
    obtain ⟨outcome', between'⟩ := h'.nextToken_of_finalTrivia final
    rw [outcome, outcome']
    exact ⟨.endOfSource, ahead, [], by simp, between, by simpa using between'⟩
  | @token gap rest u blank fits =>
    obtain ⟨outcome, between⟩ := h.nextToken_of_fits blank fits
    obtain ⟨outcome', between'⟩ := h'.nextToken_of_fits blank fits
    rw [outcome, outcome']
    exact ⟨.token u, gap ++ u.text.toList, rest, by simp, by simpa using between,
      by simpa using between'⟩
  | @fault gap front lexeme lost place fault blank wrong =>
    obtain ⟨outcome, rest, split, between⟩ := h.nextToken_of_diagnosis blank wrong
    obtain ⟨outcome', rest', split', between'⟩ := h'.nextToken_of_diagnosis blank wrong
    rw [← List.append_cancel_left (split.symm.trans split')] at between'
    have counted : (read ++ (before ++ gap ++ place)).length + 1 < UInt32.size := by
      have within := wrong.place_prefix.length_le
      simp only [List.length_append] at small ⊢
      omega
    rw [outcome, outcome']
    refine ⟨.failure ?_, gap ++ (lexeme ++ lost), rest, by simp [split], by simpa using between,
      by simpa using between'⟩
    simpa using Position.shifted_behind counted

theorem reports_shifted (h : s.Between before ahead) (h' : t.Between (read ++ before) ahead)
    (small : (read ++ before ++ ahead).length + 1 < UInt32.size) (n : Nat) :
    List.Forall₂ (Outcome.Shifted (.behind read)) (s.reports n) (t.reports n) := by
  -- What was read before grows with every call, but `read` stays: positions shift by it throughout.
  induction n generalizing s t before ahead with
  | zero => exact .nil
  | succ n ih =>
    obtain ⟨shift, taken, rest, split, between, between'⟩ := h.nextToken_shifted h' small
    exact .cons shift (ih between between' (by simpa [split] using small))

end Scanner.Between

/-- **Going on is beginning afresh with the rest.** In every state that a session leaves, all
further calls report what a scanner over the rest of the source does from its first call on, each
position shifted by where that rest begins. -/
theorem reports_resume (small : source.length + 1 < UInt32.size) (h : Reachable source file s)
    (file' : Option String) (n : Nat) :
    List.Forall₂ (Outcome.Shifted s.position)
      ((Scanner.ofString (String.ofList (source.toList.drop s.offset)) file').reports n)
      (s.reports n) := by
  obtain ⟨answers, session⟩ := h
  have between := session.between
  have fresh := Scanner.between_ofString (String.ofList (source.toList.drop s.offset)) file'
  rw [String.toList_ofList] at fresh
  rw [between.position]
  apply fresh.reports_shifted (by simpa using between)
  rw [List.append_nil, List.take_append_drop, String.length_toList]
  exact small

/-- The blank behind the word was put back. The next error stands in the line where the rest begins,
and the one after it in a later line. -/
theorem reports_resume_behind_word :
    let s := (Scanner.ofString "a ?\n ?" none).nextToken.scanner
    let rest := Scanner.ofString (String.ofList ("a ?\n ?".toList.drop s.offset)) none
    let error (line column : UInt32) : Outcome :=
      .failure ⟨.invalidCharacter '?', ⟨line, column⟩, ""⟩
    "a ?\n ?".length + 1 < UInt32.size ∧ Reachable "a ?\n ?" none s ∧
    s.pending = some ⟨' ', ⟨1, 2⟩⟩ ∧ s.position = ⟨1, 2⟩ ∧
    rest.reports 3 = [error 1 2, error 2 2, .endOfSource] ∧
    s.reports 3 = [error 1 3, error 2 2, .endOfSource] ∧
    List.Forall₂ (Outcome.Shifted s.position) (rest.reports 3) (s.reports 3) := by
  intro s rest error
  have small : "a ?\n ?".length + 1 < UInt32.size := by decide
  have reached : Reachable "a ?\n ?" none s := ⟨_, .nextToken .opened⟩
  exact ⟨small, reached, by decide +kernel, by decide +kernel, by decide +kernel,
    by decide +kernel, reports_resume small reached none 3⟩

end Lexical
