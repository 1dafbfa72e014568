import Lexical.Proofs.Position
import Lexical.Proofs.Session

/-! The scanner against the rules without the scanner.

What a call reports, and where it leaves the scanner, depends on the source and on the number of
characters read before the call, and on nothing else that the scanner holds. -/
namespace Lexical

open Direct (Cut skip)
open Scanner (Between)

namespace Direct.Cut

/-- Only a fault takes a character that is no part of the lexeme. -/
def Spares (cut : Cut) : Prop := cut.lost = [] ∨ ∃ fault, cut.verdict = .fault fault

theorem spares_word (cs : List Char) : (word cs).Spares := by
  unfold word
  split <;> grind [Spares, token, unended]

theorem spares_fraction (whole cs : List Char) : (fraction whole cs).Spares := by
  unfold fraction
  split <;> grind [Spares, token, unended]

theorem spares_number (cs : List Char) : (number cs).Spares := by
  unfold number
  split <;> grind [Spares, token, unended, spares_fraction]

theorem spares_ofText (cs : List Char) : (ofText cs).Spares := by
  unfold ofText operator
  grind [Spares, token, unended, spares_word, spares_fraction, spares_number]

end Direct.Cut

/-- The rules for a call, said of the text before it and the text ahead. -/
theorem Direct.call_eq {read gap ahead rest : List Char} {cut : Cut}
    (is : Cut.ofText (skip ahead) = cut) (gapSplit : ahead = gap ++ skip ahead)
    (cutSplit : skip ahead = cut.lexeme ++ cut.lost ++ rest) :
    call (read ++ ahead) read.length =
      (cut.outcome (read ++ gap), (read ++ gap ++ (cut.lexeme ++ cut.lost)).length) := by
  have spares : cut.Spares := is ▸ Cut.spares_ofText (skip ahead)
  have trivia : ahead.length - (skip ahead).length = gap.length := by
    have := congrArg List.length gapSplit
    simp only [List.length_append] at this
    omega
  simp only [call, List.drop_left', trivia, is]
  obtain ⟨lexeme, verdict, lost⟩ := cut
  have whole : read ++ ahead = read ++ gap ++ lexeme ++ (lost ++ rest) := by
    rw [gapSplit, cutSplit]
    simp
  have size : (read ++ gap ++ lexeme).length = read.length + gap.length + lexeme.length := by
    simp [Nat.add_assoc]
  cases verdict with
  | token kind =>
    have none : lost = [] := by simpa [Cut.Spares] using spares
    simp [Cut.outcome, none, Nat.add_assoc]
  | endOfSource =>
    have none : lost = [] := by simpa [Cut.Spares] using spares
    simp [Cut.outcome, none, Nat.add_assoc]
  | fault fault =>
    have upTo : (read ++ ahead).take (read.length + gap.length + lexeme.length) =
        read ++ gap ++ lexeme := by rw [whole, List.take_left' size]
    have before : (read ++ ahead).take (read.length + gap.length + lexeme.length - 1) =
        (read ++ gap ++ lexeme).dropLast := by
      rw [whole, ← size, List.take_append_of_le_length (Nat.sub_le _ _), List.dropLast_eq_take]
    by_cases point : fault = .malformedNumber .tooManyPoints
    · simp only [Cut.outcome, point, if_true, before]
      simp [Nat.add_assoc]
    · simp only [Cut.outcome, point, if_false, upTo]
      simp [Nat.add_assoc]

/-- Every error lies behind a text that was read when it is reported. -/
theorem Direct.position_of_call {source : List Char} {offset : Nat} {error : ScanError}
    (h : (call source offset).1 = .failure error) :
    ∃ place ≤ (call source offset).2, error.position = .behind (source.take place) := by
  unfold call at h ⊢
  dsimp only at h ⊢
  split at h
  · cases h
  · cases h
    refine ⟨_, ?_, rfl⟩
    dsimp only
    split <;> omega
  · cases h

variable {source : String} {file : Option String} {s : Scanner} {read ahead : List Char}

/-- The call of a scanner between `read` and `ahead` follows the rules, and leaves it where they
say. -/
theorem Scanner.Between.nextToken_eq (h : s.Between read ahead) :
    s.nextToken.outcome = (Direct.call (read ++ ahead) read.length).1 ∧
      s.nextToken.scanner.offset = (Direct.call (read ++ ahead) read.length).2 := by
  obtain ⟨gap, gapSplit, made⟩ := h.nextToken
  obtain ⟨rest, cutSplit, between⟩ := made.between
  rw [Direct.call_eq rfl gapSplit cutSplit]
  exact ⟨made.outcome, between.offset⟩

/-- **The scanner refines the rules.** In every state that a session leaves, errors and ends among
its answers or not, a call reports what the rules say of the source and the number of characters
read, and it leaves the scanner where they say. No position on the way is miscounted. -/
theorem nextToken_refines_call (small : source.length + 1 < UInt32.size)
    (h : Reachable source file s) :
    (s.nextToken.outcome, s.nextToken.scanner.offset) = Direct.call source.toList s.offset ∧
    s.nextToken.scanner.position.Marks
      (source.toList.take (Direct.call source.toList s.offset).2) ∧
    ∀ error, s.nextToken.outcome = .failure error →
      ∃ place ≤ (Direct.call source.toList s.offset).2,
        error.position.Marks (source.toList.take place) := by
  obtain ⟨answers, session⟩ := h
  have exactly (place : Nat) : (Position.behind (source.toList.take place)).Marks
      (source.toList.take place) := by
    apply Position.marks_behind
    have within := List.length_take_le' place source.toList
    rw [String.length_toList] at within
    omega
  have size := session.between.offset
  obtain ⟨outcome, offset⟩ := session.between.nextToken_eq
  rw [List.take_append_drop, ← size] at outcome offset
  refine ⟨by rw [outcome, offset], ?_, ?_⟩
  · rw [← offset, session.nextToken.between.position]
    exact exactly _
  · intro error failed
    obtain ⟨place, within, position⟩ := Direct.position_of_call (outcome.symm.trans failed)
    exact ⟨place, within, position ▸ exactly place⟩

/-- The blank behind the word was put back, and the point is read twice. -/
theorem nextToken_refines_call_behind_word :
    let s := (Scanner.ofString "a 1.\n" none).nextToken.scanner
    "a 1.\n".length + 1 < UInt32.size ∧ Reachable "a 1.\n" none s ∧
    Direct.call "a 1.\n".toList s.offset =
      (.failure ⟨.malformedNumber .trailingPoint, ⟨1, 5⟩, "1."⟩, 5) ∧
    (s.nextToken.outcome, s.nextToken.scanner.offset) = Direct.call "a 1.\n".toList s.offset := by
  have small : "a 1.\n".length + 1 < UInt32.size := by decide
  have reached : Reachable "a 1.\n" none (Scanner.ofString "a 1.\n" none).nextToken.scanner :=
    ⟨_, .nextToken .opened⟩
  exact ⟨small, reached, by decide +kernel, (nextToken_refines_call small reached).1⟩

end Lexical
