import Lexical.Text.Quoted
/-! Why a source could not be read. -/
namespace Lexical

inductive ReadFault
  | notFound
  | isADirectory
  | notADirectory
  | invalidFilename
  /-- The contents are no text. -/
  | invalidData
  /-- The path holds a null character. -/
  | invalidInput
  /-- Any other fault of the system, in its own words. -/
  | other (message : String)
  deriving DecidableEq, Repr

def ReadFault.message : ReadFault → String
  | notFound => "No such file or directory (os error 2)"
  | isADirectory => "Is a directory (os error 21)"
  | notADirectory => "Not a directory (os error 20)"
  | invalidFilename => "File name too long (os error 36)"
  | invalidData => "stream did not contain valid UTF-8"
  | invalidInput => "file name contained an unexpected NUL byte"
  | other message => message

structure SourceError where
  path : String
  fault : ReadFault
  deriving DecidableEq, Repr

def SourceError.message (e : SourceError) : String :=
  "failed to read source " ++ Text.quoteString e.path ++ ": " ++ e.fault.message

end Lexical
