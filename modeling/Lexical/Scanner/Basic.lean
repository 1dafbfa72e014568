import Lexical.Position
/-! The scanner's place in its source.

Lexemes end where a character is met that belongs to none or to the next one. Such a character is
put back into a slot of its own, with its position, and read from there once more; line and column
are counted only when a character is first taken from the source. -/
namespace Lexical

structure Scanner where
  source : Array Char
  /-- How many characters were taken from the source. -/
  cursor : Nat
  /-- The position of the character at the cursor. -/
  place : Position
  /-- The character that was put back. -/
  pending : Option Placed
  file : String
  /-- Whether an error or the end was reported. -/
  finished : Bool
  deriving DecidableEq, Repr

namespace Scanner

/-- The name for sources that come from no file. -/
def defaultFile : String := "shell"

def ofString (source : String) (file : Option String) : Scanner where
  source := source.toList.toArray
  cursor := 0
  place := .start
  pending := none
  file := file.getD defaultFile
  finished := false

/-- The position of the next character. -/
def position (s : Scanner) : Position :=
  match s.pending with
  | some p => p.position
  | none => s.place

/-- What is still to be read. -/
def ahead (s : Scanner) : List Char :=
  (s.pending.map Placed.char).toList ++ s.source.toList.drop s.cursor

/-- How many characters were read and not put back. -/
def offset (s : Scanner) : Nat := s.cursor - if s.pending.isSome then 1 else 0

/-- How many characters are still to be read. -/
def remaining (s : Scanner) : Nat :=
  s.source.size - s.cursor + if s.pending.isSome then 1 else 0

def atEnd (s : Scanner) : Bool := s.pending.isNone && s.source.size ≤ s.cursor

/-- Reads the next character, the one that was put back first. -/
def advance (s : Scanner) : Option (Placed × Scanner) :=
  match s.pending with
  | some p => some (p, { s with pending := none })
  | none => s.source[s.cursor]?.map fun c =>
      (⟨c, s.place⟩, { s with cursor := s.cursor + 1, place := s.place.next c })

/-- Puts a character back into the slot. -/
def unread (s : Scanner) (p : Placed) : Scanner := { s with pending := some p }

/-- Closes the stream of items. -/
def finish (s : Scanner) : Scanner := { s with finished := true }

@[simp] theorem remaining_finish (s : Scanner) : s.finish.remaining = s.remaining := rfl

theorem length_ahead (s : Scanner) : s.ahead.length = s.remaining := by
  cases h : s.pending <;> simp [ahead, remaining, h]

/-- Reading takes the next character at its position, and leaves the slot empty. -/
theorem advance_eq_some {s t : Scanner} {p : Placed} (h : s.advance = some (p, t)) :
    s.ahead = p.char :: t.ahead ∧ p.position = s.position ∧ t.pending = none := by
  unfold advance at h
  split at h
  · next q hq =>
    cases h
    simp [ahead, position, hq]
  · next hn =>
    obtain ⟨c, hc, he⟩ := Option.map_eq_some_iff.1 h
    cases he
    obtain ⟨bound, hc⟩ := Array.getElem?_eq_some_iff.1 hc
    have split := List.drop_eq_getElem_cons (show s.cursor < s.source.toList.length by simpa)
    simp [ahead, position, hn, ← hc, split]

theorem advance_eq_none_iff {s : Scanner} : s.advance = none ↔ s.ahead = [] := by
  unfold advance ahead
  cases s.pending <;> simp

theorem ahead_unread {s : Scanner} {p : Placed} (h : s.pending = none) :
    (s.unread p).ahead = p.char :: s.ahead := by simp [ahead, unread, h]

theorem atEnd_iff {s : Scanner} : s.atEnd = true ↔ s.ahead = [] := by
  unfold atEnd ahead
  cases s.pending <;> simp

theorem remaining_of_advance {s t : Scanner} {p : Placed} (h : s.advance = some (p, t)) :
    t.remaining + 1 = s.remaining := by
  simp [← length_ahead, (advance_eq_some h).1]

theorem remaining_unread {s : Scanner} {p : Placed} (h : s.pending = none) :
    (s.unread p).remaining = s.remaining + 1 := by
  simp [← length_ahead, ahead_unread h]

end Scanner

end Lexical
