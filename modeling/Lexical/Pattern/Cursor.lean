import Lexical.Pattern.Flaw
import Lexical.Text.Blank
/-! Going through the text of a pattern. -/
namespace Lexical.Pattern

/-- What is left of a text and how much of it was read. With free spacing, blanks and comments
between the parts of a pattern mean nothing; a comment goes from `#` to the end of its line. -/
structure Cursor where
  rest : List Char
  offset : Nat
  freeSpacing : Bool
  deriving DecidableEq, Repr

/-- How many of the first characters are blanks or belong to comments. -/
def idleCount (inComment : Bool) : List Char → Nat
  | [] => 0
  | c :: cs =>
    if inComment then idleCount (c != '\n') cs + 1
    else if c == '#' then idleCount true cs + 1
    else if Text.isBlank c then idleCount false cs + 1
    else 0

namespace Cursor

def ofText (text : String) : Cursor := ⟨text.toList, 0, false⟩

def atEnd (c : Cursor) : Bool := c.rest.isEmpty

def char? (c : Cursor) : Option Char := c.rest.head?

/-- The empty span at the cursor. -/
def here (c : Cursor) : Span := ⟨c.offset, c.offset⟩

/-- The span of the next character. -/
def ahead (c : Cursor) : Span := ⟨c.offset, c.offset + 1⟩

/-- What was read since `start`. -/
def since (c : Cursor) (start : Nat) : Span := ⟨start, c.offset⟩

def advance (c : Cursor) (n : Nat) : Cursor :=
  { c with rest := c.rest.drop n, offset := c.offset + min n c.rest.length }

def skipBlanks (c : Cursor) : Cursor := c.advance (c.rest.takeWhile Text.isBlank).length

def skipIdle (c : Cursor) : Cursor :=
  if c.freeSpacing then c.advance (idleCount false c.rest) else c

/-- Past a character and what means nothing behind it. -/
def next (c : Cursor) : Cursor := (c.advance 1).skipIdle

/-- The character behind the next one, blanks and the sign of a comment left out of account where
spacing is free. -/
def beyond? (c : Cursor) : Option Char :=
  let behind := c.rest.drop 1
  if c.freeSpacing then
    match behind.dropWhile Text.isBlank with
    | '#' :: cs => (cs.dropWhile Text.isBlank).head?
    | cs => cs.head?
  else behind.head?

/-- Past `text`, if it comes next. -/
def accept? (c : Cursor) (text : String) : Option Cursor :=
  if text.toList.isPrefixOf c.rest then some (c.advance text.length) else none

theorem length_advance_le (c : Cursor) (n : Nat) : (c.advance n).rest.length ≤ c.rest.length := by
  rw [advance, List.length_drop]
  exact Nat.sub_le ..

theorem length_skipIdle_le (c : Cursor) : c.skipIdle.rest.length ≤ c.rest.length := by
  unfold skipIdle
  split
  · exact length_advance_le ..
  · exact Nat.le_refl _

theorem length_advance_one_lt {c : Cursor} {x : Char} (h : c.char? = some x) :
    (c.advance 1).rest.length < c.rest.length := by
  cases hr : c.rest with
  | nil => simp [char?, hr] at h
  | cons y ys => simp [advance, hr]

theorem length_next_lt {c : Cursor} {x : Char} (h : c.char? = some x) :
    c.next.rest.length < c.rest.length :=
  Nat.lt_of_le_of_lt (length_skipIdle_le _) (length_advance_one_lt h)

/-- The characters that come next and satisfy `p`, and the cursor behind them. -/
def takeWhile (p : Char → Bool) (c : Cursor) : List Char × Cursor :=
  match _ahead : c.char? with
  | none => ([], c)
  | some x =>
    if p x then
      let (xs, d) := c.next.takeWhile p
      (x :: xs, d)
    else ([], c)
termination_by c.rest.length
decreasing_by exact length_next_lt _ahead

end Cursor

end Lexical.Pattern
