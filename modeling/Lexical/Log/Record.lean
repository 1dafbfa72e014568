/-! Log records and their levels. -/
namespace Lexical.Log

inductive Level
  | error
  | warn
  | info
  | debug
  | trace
  deriving DecidableEq, Repr

namespace Level

def name : Level → String
  | error => "ERROR"
  | warn => "WARN"
  | info => "INFO"
  | debug => "DEBUG"
  | trace => "TRACE"

/-- From the gravest level, 1, to the most talkative, 5. -/
def rank : Level → Nat
  | error => 1
  | warn => 2
  | info => 3
  | debug => 4
  | trace => 5

end Level

structure Record where
  level : Level
  target : String
  message : String
  deriving DecidableEq, Repr

namespace Record

/-- The record with its parts separated by blanks. -/
def display (r : Record) : String := r.level.name ++ " " ++ r.target ++ " " ++ r.message

/-- The entry on the terminal: a level padded to five columns, and further lines of the message
indented by four. -/
def entry (r : Record) : String :=
  let level := r.level.name ++ String.ofList (List.replicate (5 - r.level.name.length) ' ')
  let lines := (r.message.toList.splitOn '\n').map String.ofList
  "[" ++ level ++ " " ++ r.target ++ "] " ++ "\n    ".intercalate lines

end Record

end Lexical.Log
