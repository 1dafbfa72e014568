import Lexical.CharClass
import Lexical.ScanError
import Lexical.Token
/-! The automaton that recognises one lexeme.

In every mode a character calls for one move: what becomes of the character, and how the reading
goes on. No other part of the scanner looks at what a character is. -/
namespace Lexical

/-- The most points that a number may contain. -/
def maxPoints : UInt32 := 1

/-- The text read for the lexeme under way, and how many points were counted in it. -/
structure Lexeme where
  text : String
  points : UInt32
  deriving DecidableEq, Repr

namespace Lexeme

def empty : Lexeme := ⟨"", 0⟩

def push (l : Lexeme) (c : Char) : Lexeme :=
  ⟨l.text.push c, if isPoint c then l.points + 1 else l.points⟩

def endsInPoint (l : Lexeme) : Bool := l.text.toList.getLast? == some '.'

end Lexeme

inductive Mode
  /-- Nothing but blanks and comments was read. -/
  | start
  | comment
  | word
  /-- An equals sign was read. -/
  | equals
  /-- One of `<`, `>` and `!` was read. -/
  | comparison
  /-- Digits were read. -/
  | integer
  /-- Digits were read and a point follows, or a point is among what was read. -/
  | fraction
  deriving DecidableEq, Repr

/-- Whether no lexeme is under way. -/
def Mode.isTrivia (m : Mode) : Bool := m == .start || m == .comment

/-- What becomes of a character: it is passed over, it joins the lexeme, or it is put back. -/
inductive Use
  | skip
  | keep
  | putBack
  deriving DecidableEq, Repr

/-- How the reading goes on. -/
inductive Sequel
  | goOn (mode : Mode)
  | emit (kind : TokenKind)
  | fail (fault : Fault)
  deriving DecidableEq, Repr

@[ext] structure Move where
  use : Use
  sequel : Sequel
  deriving DecidableEq, Repr

namespace Move

def start (c : Char) : Move :=
  match CharClass.ofChar c with
  | .whitespace => ⟨.skip, .goOn .start⟩
  | .commentStart => ⟨.skip, .goOn .comment⟩
  | .letter | .underscore => ⟨.keep, .goOn .word⟩
  | .digit => ⟨.keep, .goOn .integer⟩
  | .point => ⟨.keep, .goOn .fraction⟩
  | .mathOperator => ⟨.keep, .emit .mathOperator⟩
  | .parenthesis => ⟨.keep, .emit .parenthesis⟩
  | .assignment => ⟨.keep, .goOn .equals⟩
  | .relOperator => ⟨.keep, .goOn .comparison⟩
  | .invalid => ⟨.skip, .fail (.invalidCharacter c)⟩

def comment (c : Char) : Move :=
  if isEndOfLine c then ⟨.skip, .goOn .start⟩ else ⟨.skip, .goOn .comment⟩

def word (l : Lexeme) (c : Char) : Move :=
  if isWordPart c then ⟨.keep, .goOn .word⟩
  else if isInvalid c then ⟨.skip, .fail (.malformedIdentifier c)⟩
  else ⟨.putBack, .emit (.ofWord l.text)⟩

def equals (c : Char) : Move :=
  if isAssignment c then ⟨.keep, .emit .relOperator⟩ else ⟨.putBack, .emit .assignment⟩

def comparison (c : Char) : Move :=
  if isAssignment c then ⟨.keep, .emit .relOperator⟩ else ⟨.putBack, .emit .relOperator⟩

/-- A point after digits is put back and read again as part of a fraction. -/
def integer (c : Char) : Move :=
  if isDigit c then ⟨.keep, .goOn .integer⟩
  else if isPoint c then ⟨.putBack, .goOn .fraction⟩
  else if isLetter c || isInvalid c then ⟨.skip, .fail (.malformedNumber (.unexpectedCharacter c))⟩
  else ⟨.putBack, .emit .number⟩

/-- A point too many still joins the lexeme. What follows a last point is lost with it. -/
def fraction (l : Lexeme) (c : Char) : Move :=
  if isDigit c then ⟨.keep, .goOn .fraction⟩
  else if isPoint c then
    if l.points + 1 > maxPoints then ⟨.keep, .fail (.malformedNumber .tooManyPoints)⟩
    else ⟨.keep, .goOn .fraction⟩
  else if l.endsInPoint then ⟨.skip, .fail (.malformedNumber .trailingPoint)⟩
  else ⟨.putBack, .emit .number⟩

/-- The move that `c` calls for when `l` was read in `mode`. -/
def ofMode (l : Lexeme) (c : Char) : Mode → Move
  | .start => start c
  | .comment => comment c
  | .word => word l c
  | .equals => equals c
  | .comparison => comparison c
  | .integer => integer c
  | .fraction => fraction l c

/-- Only a point after digits is put back while the lexeme goes on. -/
theorem mode_of_putBack_goOn {l : Lexeme} {c : Char} {mode next : Mode}
    (h : ofMode l c mode = ⟨.putBack, .goOn next⟩) : mode = .integer ∧ next = .fraction := by
  cases mode <;>
    simp only [ofMode, start, comment, word, equals, comparison, integer, fraction] at h <;>
    grind

/-- Before a lexeme nothing is put back. -/
theorem isTrivia_of_putBack {l : Lexeme} {c : Char} {mode : Mode}
    (h : (ofMode l c mode).use = .putBack) : mode.isTrivia = false := by
  cases mode <;> simp only [ofMode, start, comment] at h <;> first | rfl | grind

end Move

end Lexical
