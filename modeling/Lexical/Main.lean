import Lexical.CommandLine.Response
/-! The program: it reads the arguments, the file and the log filter, and prints what they call for. -/
namespace Lexical.CommandLine

/-- The system's number for an error, which some calls give negated. -/
def errorNumber (code : UInt32) : UInt32 := min code (0 - code)

def readFault (e : IO.Error) : ReadFault :=
  match e with
  | .noFileOrDirectory .. => .notFound
  | .inappropriateType _ code _ =>
    if errorNumber code = 20 then .notADirectory else .isADirectory
  | .invalidArgument _ code details =>
    if errorNumber code = 36 then .invalidFilename else .other details
  | other => .other (toString other)

def readSource (path : String) : IO (Except ReadFault String) := do
  if path.toList.contains '\x00' then return .error .invalidInput
  try
    let bytes ← IO.FS.readBinFile path
    return match String.fromUTF8? bytes with
      | some text => .ok text
      | none => .error .invalidData
  catch e => return .error (readFault e)

/-- The report on a file, with the time that listing it took. -/
def reportOn (file : String) : IO Report := do
  match ← readSource file with
  | .error fault => return .ofReadFault file fault
  | .ok source =>
    let started ← IO.monoNanosNow
    let listing ← IO.lazyPure fun _ => Listing.ofOpened (Scanner.openString source (some file))
    let elapsed : Duration := ⟨(← IO.monoNanosNow) - started⟩
    return .ofListing file source elapsed listing

end Lexical.CommandLine

open Lexical.CommandLine in
def main (arguments : List String) : IO UInt32 := do
  match Request.ofArguments arguments with
  | .error fault =>
    IO.eprintln fault.message
    return Exit.unusable.code.toUInt32
  | .ok .help =>
    IO.print help
    return Exit.success.code.toUInt32
  | .ok (.scan file verbosity) =>
    let report ← reportOn file
    for entry in report.log verbosity (← IO.getEnv "RUST_LOG") do
      IO.eprintln entry
    IO.print report.output
    match report.exit with
    | .aborted fault => IO.eprintln fault.message
    | _ => pure ()
    return report.exit.code.toUInt32
