import Lexical.Scanner.Opened
/-! The tokens that a run lists. -/
namespace Lexical.CommandLine

/-- The tokens before the first report that is none, that report if it is an error, and all that was
told the log. -/
structure Listing where
  tokens : List Token
  error : Option ScanError
  events : List Event
  deriving DecidableEq, Repr

namespace Listing

/-- Goes on listing after `tokens` were found. -/
def after (tokens : Array Token) (events : Array Event) (s : Scanner) : Listing :=
  match _called : s.nextToken with
  | ⟨.token token, t, new⟩ => after (tokens.push token) (events ++ new) t
  | ⟨.failure error, _, new⟩ => ⟨tokens.toList, some error, (events ++ new).toList⟩
  | ⟨.endOfSource, _, new⟩ => ⟨tokens.toList, none, (events ++ new).toList⟩
termination_by s.remaining
decreasing_by
  have less := Scanner.remaining_nextToken_lt (s := s) (by simp [_called])
  simpa [_called] using less

def ofOpened (o : Opened) : Listing := after #[] o.events.toArray o.scanner

end Listing

end Lexical.CommandLine
