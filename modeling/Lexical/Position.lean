import Lexical.Text.Labelled
/-! Places in a source text. -/
namespace Lexical

/-- A line and a column, each counted from one in a 32-bit word. -/
structure Position where
  line : UInt32
  column : UInt32
  deriving DecidableEq, Repr

namespace Position

def start : Position := ⟨1, 1⟩

/-- The position after `c`. Only a line feed begins a line: a carriage return takes a column like
any other character. -/
def next (p : Position) (c : Char) : Position :=
  if c = '\n' then ⟨p.line + 1, 1⟩ else ⟨p.line, p.column + 1⟩

/-- The position after all of `cs`. -/
def after (p : Position) (cs : List Char) : Position := cs.foldl next p

/-- The position behind a text, counted off it: one line more than it has line feeds, and one
column more than it has characters behind the last of them. -/
def behind (text : List Char) : Position :=
  ⟨.ofNat (text.count '\n' + 1), .ofNat ((text.reverse.takeWhile (· != '\n')).length + 1)⟩

theorem behind_append_singleton (text : List Char) (c : Char) :
    behind (text ++ [c]) = (behind text).next c := by
  by_cases h : c = '\n' <;>
    simp [behind, next, h, List.count_append, UInt32.ofNat_add]

theorem after_behind (text cs : List Char) : (behind text).after cs = behind (text ++ cs) := by
  induction cs generalizing text with
  | nil => simp [after]
  | cons c cs ih =>
    rw [List.append_cons, ← ih, behind_append_singleton]
    rfl

/-- Counting from the start and reading character by character agree. -/
theorem after_start (cs : List Char) : start.after cs = behind cs := after_behind [] cs

/-- As messages write it, `line:column`. -/
def display (p : Position) : String := toString p.line ++ ":" ++ toString p.column

def inspect (p : Position) : String :=
  Text.labelled "Position" [("line", toString p.line), ("column", toString p.column)]

end Position

/-- A character with the position it was read at. -/
structure Placed where
  char : Char
  position : Position
  deriving DecidableEq, Repr

end Lexical
