/-! The arguments of the command line.

They are read from left to right until one asks for help or is out of place, so a request for help
counts only if nothing before it was wrong. -/
namespace Lexical.CommandLine

inductive Request
  | help
  | scan (file : String) (verbosity : Nat)
  deriving DecidableEq, Repr

inductive UsageFault
  | unexpected (argument : String)
  | emptyFile
  | missingFile
  deriving DecidableEq, Repr

def UsageFault.message : UsageFault → String
  | unexpected argument => "error: unexpected argument '" ++ argument ++ "' found"
  | emptyFile => "error: a value is required for '<FILE>' but none was supplied"
  | missingFile => "error: the required argument <FILE> was not provided"

/-- What the arguments read so far say. -/
structure Reading where
  file : Option String
  verbosity : Nat
  deriving DecidableEq, Repr

namespace Reading

/-- Takes an argument as the file. -/
def setFile (r : Reading) (argument : String) : Except UsageFault Reading :=
  if r.file.isSome then .error (.unexpected argument)
  else if argument.isEmpty then .error .emptyFile
  else .ok { r with file := some argument }

def finish (r : Reading) : Except UsageFault Request :=
  match r.file with
  | some file => .ok (.scan file r.verbosity)
  | none => .error .missingFile

/-- Reads letters after one dash; `none` stands for a request for help. -/
def letters (r : Reading) : List Char → Except UsageFault (Option Reading)
  | [] => .ok (some r)
  | 'v' :: cs => letters { r with verbosity := r.verbosity + 1 } cs
  | 'h' :: _ => .ok none
  | c :: _ => .error (.unexpected ("-" ++ c.toString))

/-- Reads arguments that are all files. -/
def files (r : Reading) : List String → Except UsageFault Request
  | [] => r.finish
  | argument :: rest =>
    match r.setFile argument with
    | .error fault => .error fault
    | .ok r => files r rest

def arguments (r : Reading) : List String → Except UsageFault Request
  | [] => r.finish
  | argument :: rest =>
    match argument.toList with
    | ['-', '-'] => r.files rest
    | '-' :: '-' :: name =>
      if name = "verbose".toList then arguments { r with verbosity := r.verbosity + 1 } rest
      else if name = "help".toList then .ok .help
      else .error (.unexpected argument)
    | '-' :: c :: cs =>
      match r.letters (c :: cs) with
      | .error fault => .error fault
      | .ok none => .ok .help
      | .ok (some r) => arguments r rest
    | _ =>
      match r.setFile argument with
      | .error fault => .error fault
      | .ok r => arguments r rest

end Reading

def Request.ofArguments (arguments : List String) : Except UsageFault Request :=
  Reading.arguments ⟨none, 0⟩ arguments

end Lexical.CommandLine
