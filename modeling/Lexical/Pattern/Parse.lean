import Lexical.Pattern.Reader
import Lexical.Pattern.Size
/-! Patterns from their texts. -/
namespace Lexical

inductive PatternError
  | malformed (text : String) (flaw : Pattern.Flaw)
  | tooLarge
  /-- The pattern asks about words beyond ASCII. -/
  | unbuildable
  deriving DecidableEq, Repr

def PatternError.message : PatternError → String
  | malformed text flaw => flaw.message text
  | tooLarge =>
    "Compiled regex exceeds size limit of " ++ toString Pattern.Plan.limit ++ " bytes."
  | unbuildable => "error building NFA"

namespace Pattern

/-- The error of a pattern that cannot be compiled: first forward, then backward. -/
def Plan.error? (p : Plan) : Option PatternError :=
  if limit < p.size .forward then some .tooLarge
  else if !p.isKnown then some .unbuildable
  else if limit < p.size .backward then some .tooLarge
  else none

def parse (text : String) : Except PatternError Pattern :=
  match Reader.pattern text with
  | .error flaw => .error (.malformed text flaw)
  | .ok p => p.plan.error?.elim (.ok p) .error

end Pattern

end Lexical
