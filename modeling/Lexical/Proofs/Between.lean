import Lexical.Scanner.Basic

/-! Where a scanner stands in its source: between what it read and what is still ahead.

A character that was put back is ahead again, although the cursor and the line count have passed it.
All that a scanner holds besides the source (cursor, place, slot) follows from the text it has read
and from whether the slot is full, so later proofs speak of texts only. -/
namespace Lexical.Scanner

/-- Nothing was put back since the last character of `read` was read. -/
structure Clear (s : Scanner) (read ahead : List Char) : Prop where
  source : s.source.toList = read ++ ahead
  cursor : s.cursor = read.length
  place : s.place = .behind read
  pending : s.pending = none

/-- The scanner has read `read` and has `ahead` before it. -/
inductive Between : Scanner → List Char → List Char → Prop
  | clear {s : Scanner} {read ahead : List Char} (h : s.Clear read ahead) : Between s read ahead
  | putBack {s : Scanner} {read ahead : List Char} {c : Char} (h : s.Clear (read ++ [c]) ahead) :
      Between (s.unread ⟨c, .behind read⟩) read (c :: ahead)

variable {s : Scanner} {read ahead : List Char} {c : Char}

theorem Clear.advance (h : s.Clear read (c :: ahead)) :
    ∃ t, s.advance = some (⟨c, .behind read⟩, t) ∧ t.Clear (read ++ [c]) ahead := by
  have atCursor : s.source[s.cursor]? = some c := by
    rw [← Array.getElem?_toList, h.source, h.cursor]
    simp
  refine ⟨{ s with cursor := s.cursor + 1, place := s.place.next c }, ?_, ?_⟩
  · simp [Scanner.advance, h.pending, atCursor, h.place]
  · exact ⟨by simp [h.source], by simp [h.cursor],
      by simp [h.place, Position.behind_append_singleton], h.pending⟩

/-- Reading gives the next character with its position in the text, put back or not. -/
theorem Between.advance (h : s.Between read (c :: ahead)) :
    ∃ t, s.advance = some (⟨c, .behind read⟩, t) ∧ t.Clear (read ++ [c]) ahead := by
  cases h with
  | clear h => exact h.advance
  | @putBack s _ _ _ h =>
    refine ⟨s, ?_, h⟩
    have slot := h.pending
    obtain ⟨source, cursor, place, pending, file, finished⟩ := s
    simp_all [Scanner.advance, unread]

namespace Between

theorem offset (h : s.Between read ahead) : s.offset = read.length := by
  cases h with
  | clear h => simp [Scanner.offset, h.cursor, h.pending]
  | putBack h => simp [Scanner.offset, unread, h.cursor]

theorem position (h : s.Between read ahead) : s.position = .behind read := by
  cases h with
  | clear h => simp [Scanner.position, h.pending, h.place]
  | putBack h => rfl

theorem ahead_eq (h : s.Between read ahead) : s.ahead = ahead := by
  cases h with
  | clear h => simp [Scanner.ahead, h.pending, h.source, h.cursor]
  | putBack h => simp [Scanner.ahead, unread, h.source, h.cursor]

theorem text (h : s.Between read ahead) : s.source.toList = read ++ ahead := by
  cases h with
  | clear h => exact h.source
  | putBack h => simp [unread, h.source]

/-- A scanner is at one place only. -/
theorem unique {read' ahead' : List Char} (h : s.Between read ahead)
    (h' : s.Between read' ahead') : read' = read ∧ ahead' = ahead :=
  List.append_inj (h'.text.symm.trans h.text) (h'.offset.symm.trans h.offset)

theorem remaining (h : s.Between read ahead) : s.remaining = ahead.length := by
  rw [← length_ahead, h.ahead_eq]

theorem advance_nil (h : s.Between read []) : s.advance = none :=
  advance_eq_none_iff.mpr h.ahead_eq

theorem finish (h : s.Between read ahead) : s.finish.Between read ahead := by
  cases h with
  | clear h => exact .clear ⟨h.source, h.cursor, h.place, h.pending⟩
  | @putBack s _ _ _ h =>
    exact .putBack (s := s.finish) ⟨h.source, h.cursor, h.place, h.pending⟩

theorem take_offset (h : s.Between read ahead) : (read ++ ahead).take s.offset = read := by
  simp [h.offset]

theorem drop_offset (h : s.Between read ahead) : (read ++ ahead).drop s.offset = ahead := by
  simp [h.offset]

end Between

theorem between_ofString (source : String) (file : Option String) :
    (ofString source file).Between [] source.toList :=
  .clear ⟨by simp [ofString], rfl, rfl, rfl⟩

/-- Reading touches neither the name of the source nor the end of the stream. -/
theorem frame_of_advance {t : Scanner} {p : Placed} (h : s.advance = some (p, t)) :
    t.file = s.file ∧ t.finished = s.finished := by
  unfold Scanner.advance at h
  split at h
  · cases h; exact ⟨rfl, rfl⟩
  · obtain ⟨_, _, he⟩ := Option.map_eq_some_iff.1 h
    cases he; exact ⟨rfl, rfl⟩

end Lexical.Scanner
