import Lexical.ScanError
import Lexical.Token
/-! What the scanner reports. -/
namespace Lexical

/-- What one call reports. -/
inductive Outcome
  | token (token : Token)
  | failure (error : ScanError)
  /-- Nothing but blanks and comments was left. -/
  | endOfSource
  deriving DecidableEq, Repr

/-- What a stream of reports holds: the end of the source is not part of it. -/
abbrev Item := Except ScanError Token

def Outcome.item? : Outcome → Option Item
  | token t => some (.ok t)
  | failure e => some (.error e)
  | endOfSource => none

end Lexical
