/-! The classes of characters of the scanned language.

Each test accepts the characters of one role, and letters and digits are the ASCII ones. The roles
overlap twice: line ends are blanks too, and the equals sign both assigns and compares. A character
that no test accepts is invalid. -/
namespace Lexical

inductive CharClass
  | whitespace
  | commentStart
  | letter
  | digit
  | underscore
  | point
  | mathOperator
  | assignment
  | relOperator
  | parenthesis
  | invalid
  deriving DecidableEq, Repr

def isWhitespace (c : Char) : Bool := c == ' ' || c == '\t' || c == '\n' || c == '\r'

def isEndOfLine (c : Char) : Bool := c == '\n' || c == '\r'

def isCommentStart (c : Char) : Bool := c == '#'

def isLetter (c : Char) : Bool := c.isAlpha

def isDigit (c : Char) : Bool := c.isDigit

def isUnderscore (c : Char) : Bool := c == '_'

def isPoint (c : Char) : Bool := c == '.'

def isMathOperator (c : Char) : Bool := c == '+' || c == '-' || c == '*' || c == '/'

def isAssignment (c : Char) : Bool := c == '='

def isRelOperator (c : Char) : Bool := c == '=' || c == '>' || c == '<' || c == '!'

def isParenthesis (c : Char) : Bool := c == '(' || c == ')'

namespace CharClass

/-- The class of a character. Assignment is tested before comparison, so the equals sign is an
assignment. -/
def ofChar (c : Char) : CharClass :=
  if isWhitespace c then whitespace
  else if isCommentStart c then commentStart
  else if isLetter c then letter
  else if isDigit c then digit
  else if isUnderscore c then underscore
  else if isPoint c then point
  else if isMathOperator c then mathOperator
  else if isAssignment c then assignment
  else if isRelOperator c then relOperator
  else if isParenthesis c then parenthesis
  else invalid

def name : CharClass → String
  | whitespace => "Whitespace"
  | commentStart => "CommentStart"
  | letter => "Letter"
  | digit => "Digit"
  | underscore => "Underscore"
  | point => "Point"
  | mathOperator => "MathOperator"
  | assignment => "Assignment"
  | relOperator => "RelOperator"
  | parenthesis => "Parenthesis"
  | invalid => "Invalid"

end CharClass

def isInvalid (c : Char) : Bool := CharClass.ofChar c == .invalid

/-- A word goes on with letters, digits and underscores. -/
def isWordPart (c : Char) : Bool := isLetter c || isDigit c || isUnderscore c

namespace CharClass

/-- Neighbouring characters of one class. -/
structure Run where
  first : Char
  last : Char
  charClass : CharClass
  deriving DecidableEq, Repr

/-- The characters with code points from `first` to `last`; surrogates are no characters. -/
def chars (first last : Nat) : List Char :=
  ((List.range' first (min last 0x10FFFF + 1 - first)).filter Nat.isValidChar).map Char.ofNat

/-- The longest runs of one class among the characters from `first` to `last`, in order. -/
def runs (first last : Nat) : List Run :=
  ((chars first last).splitBy fun a b => ofChar a == ofChar b).filterMap fun run =>
    match run with
    | [] => none
    | c :: cs => some ⟨c, cs.getLast?.getD c, ofChar c⟩

end CharClass

end Lexical
