import Lexical.Pattern.Flaw
/-! How deep the parts of a pattern stand in each other. -/
namespace Lexical.Pattern

/-- The spans of parts inside each other, the outermost first. Of several parts at one depth it has
the first. -/
abbrev Nesting := List Span

namespace Nesting

/-- The nesting of what stands side by side. -/
def beside : Nesting → Nesting → Nesting
  | [], m => m
  | n, [] => n
  | span :: n, _ :: m => span :: beside n m

/-- No part may stand in so many others. -/
def limit : Nat := 250

def flaw? (n : Nesting) : Option Flaw := n[limit]?.map Defect.tooDeep.within

end Nesting

end Lexical.Pattern
