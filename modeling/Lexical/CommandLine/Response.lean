import Lexical.CommandLine.Arguments
import Lexical.CommandLine.Report
/-! What the program answers to its arguments. -/
namespace Lexical.CommandLine

inductive Response
  | usage (fault : UsageFault)
  | help
  | report (report : Report) (log : List String)

def help : String := "Scan a source file and list its tokens

Usage: lexscan [OPTIONS] <FILE>

Arguments:
  <FILE>  Source file to scan

Options:
  -v, --verbose...  Raise log verbosity (-v debug, -vv trace)
  -h, --help        Print help
"

namespace Response

/-- The response where `read` gives the contents of a path. -/
def ofArguments (arguments : List String) (spec : Option String) (elapsed : Duration)
    (read : String → Except ReadFault String) : Response :=
  match Request.ofArguments arguments with
  | .error fault => usage fault
  | .ok .help => help
  | .ok (.scan file verbosity) =>
    let r := Report.ofContents file elapsed (read file)
    report r (r.log verbosity spec)

def code : Response → UInt8
  | usage _ => Exit.unusable.code
  | help => Exit.success.code
  | report r _ => r.exit.code

def output : Response → String
  | usage _ => ""
  | help => CommandLine.help
  | report r _ => r.output

/-- The entries on the error stream, where they are the log's alone. -/
def log : Response → Option (List String)
  | usage _ => none
  | help => some []
  | report r entries =>
    match r.exit with
    | .aborted _ => none
    | _ => some entries

end Response

end Lexical.CommandLine
