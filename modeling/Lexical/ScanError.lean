import Lexical.Position
import Lexical.Text.Quoted
/-! What can be wrong with a source text, and how it is reported. -/
namespace Lexical

inductive NumberFault
  | trailingPoint
  | tooManyPoints
  | unexpectedCharacter (found : Char)
  deriving DecidableEq, Repr

inductive Fault
  | invalidCharacter (found : Char)
  | malformedIdentifier (found : Char)
  | malformedNumber (reason : NumberFault)
  | unexpectedEndOfInput
  deriving DecidableEq, Repr

/-- A fault, where it was met, and the lexeme read until then. -/
structure ScanError where
  fault : Fault
  position : Position
  lexeme : String
  deriving DecidableEq, Repr

namespace NumberFault

def message : NumberFault → String
  | trailingPoint => "ends with a lone point"
  | tooManyPoints => "contains more than one point"
  | unexpectedCharacter found => "is followed by " ++ Text.quoteChar found

def inspect : NumberFault → String
  | trailingPoint => "TrailingPoint"
  | tooManyPoints => "TooManyPoints"
  | unexpectedCharacter found => "UnexpectedCharacter(" ++ Text.quoteChar found ++ ")"

end NumberFault

namespace Fault

def name : Fault → String
  | invalidCharacter _ => "InvalidCharacter"
  | malformedIdentifier _ => "MalformedIdentifier"
  | malformedNumber _ => "MalformedNumber"
  | unexpectedEndOfInput => "UnexpectedEndOfInput"

def message : Fault → String
  | invalidCharacter found => "invalid character: " ++ Text.quoteChar found
  | malformedIdentifier found => "malformed identifier: unexpected " ++ Text.quoteChar found
  | malformedNumber reason => "malformed number: " ++ reason.message
  | unexpectedEndOfInput => "unexpected end of input"

def inspect (fault : Fault) : String :=
  match fault with
  | invalidCharacter found => Text.labelled fault.name [("found", Text.quoteChar found)]
  | malformedIdentifier found => Text.labelled fault.name [("found", Text.quoteChar found)]
  | malformedNumber reason => Text.labelled fault.name [("reason", reason.inspect)]
  | unexpectedEndOfInput => fault.name

end Fault

namespace ScanError

def message (e : ScanError) : String := e.fault.message ++ " at " ++ e.position.display

/-- Advice for the reader of the source. An invalid character speaks for itself. -/
def tip (e : ScanError) : Option String :=
  match e.fault with
  | .invalidCharacter _ => none
  | .malformedIdentifier found => some ("Identifier `" ++ e.lexeme ++ "` is followed by `" ++
      found.toString ++ "`, identifiers may only contain letters, digits and `_`")
  | .malformedNumber reason => some ("Number literal `" ++ e.lexeme ++ "` " ++ reason.message)
  | .unexpectedEndOfInput => some ("Source ended while reading `" ++ e.lexeme ++
      "`, is a trailing newline missing?")

def inspect (e : ScanError) : String :=
  Text.labelled "Error" [("internal_error", e.fault.inspect), ("position", e.position.inspect),
    ("lexeme", Text.quoteString e.lexeme)]

end ScanError

end Lexical
