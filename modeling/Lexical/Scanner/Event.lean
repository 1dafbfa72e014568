import Lexical.Log.Record
import Lexical.ScanError
import Lexical.Token
/-! What a scanner has to tell the log. -/
namespace Lexical

inductive Event
  /-- A source of so many bytes was read from `path`. -/
  | read (bytes : Nat) (path : String)
  /-- A scanner was made over so many characters. -/
  | created (file : String) (chars : Nat)
  | putBack (p : Placed)
  /-- A token was found; `position` is that of the last character read for it. -/
  | found (position : Position) (token : Token)
  | failed (file : String) (error : ScanError)
  deriving DecidableEq, Repr

namespace Event

def level : Event → Log.Level
  | read .. | created .. | failed .. => .debug
  | putBack .. | found .. => .trace

def message : Event → String
  | read bytes path => "read " ++ toString bytes ++ " bytes from " ++ path
  | created file chars => "scanner created for " ++ file ++ " (" ++ toString chars ++ " chars)"
  | putBack p => p.position.display ++ ": push back " ++ Text.quoteChar p.char
  | found position token => position.display ++ ": " ++ token.display
  | failed file error => file ++ ": " ++ error.message

def target : String := "lexscan::lexer::lexer"

def record (e : Event) : Log.Record := ⟨e.level, target, e.message⟩

end Event

end Lexical
