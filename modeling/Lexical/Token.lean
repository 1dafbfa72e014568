import Lexical.Text.Labelled
import Lexical.Text.Quoted
/-! The tokens of the scanned language. -/
namespace Lexical

inductive TokenKind
  | identifier
  | reserved
  | mathOperator
  | assignment
  | relOperator
  | parenthesis
  | number
  deriving DecidableEq, Repr

def TokenKind.name : TokenKind → String
  | identifier => "Identifier"
  | reserved => "Reserved"
  | mathOperator => "MathOperator"
  | assignment => "Assignment"
  | relOperator => "RelOperator"
  | parenthesis => "Parenthesis"
  | number => "Number"

/-- A kind with the source text that has it. -/
structure Token where
  kind : TokenKind
  text : String
  deriving DecidableEq, Repr

/-- The words that are no identifiers, in alphabetical order. -/
def reservedWords : List String := ["else", "float", "if", "int", "print"]

def isReserved (word : String) : Bool := reservedWords.contains word

/-- The kind of a whole word. -/
def TokenKind.ofWord (word : String) : TokenKind :=
  if isReserved word then reserved else identifier

namespace Token

def display (t : Token) : String :=
  Text.labelled "Token" [("kind", t.kind.name), ("text", Text.quoteString t.text)]

/-- The line that lists the token. The text stands there as it is. -/
def listing (t : Token) : String := t.kind.name ++ " (" ++ t.text ++ ")\n"

end Token

end Lexical
