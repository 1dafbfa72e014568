import Lexical.CommandLine.Duration
import Lexical.CommandLine.Listing
import Lexical.Excerpt
import Lexical.Log.Filter
/-! What a run reports on a file. -/
namespace Lexical.CommandLine

/-- How a run ends. -/
inductive Exit
  | success
  /-- The source holds an error. -/
  | invalidSource
  /-- There was nothing to scan. -/
  | unusable
  /-- The source holds an error that cannot be shown. -/
  | aborted (fault : Excerpt.WidthFault)
  deriving DecidableEq, Repr

def Exit.code : Exit → UInt8
  | success => 0
  | invalidSource => 1
  | unusable => 2
  | aborted _ => 101

/-- How a run ends, what it prints, and all that it tells the log. -/
structure Report where
  exit : Exit
  output : String
  records : List Log.Record
  deriving DecidableEq, Repr

/-- The target of a run's own records. -/
def target : String := "lexscan"

/-- What the log is told of a file that cannot be read. -/
def unreadable (file : String) (fault : ReadFault) : Log.Record :=
  ⟨.error, target,
    "failed to read source " ++ Text.quoteString file ++ ": " ++ fault.message⟩

/-- What the log is told at the end of a source without an error. The number of tokens is kept as a
natural number: a signed word of 32 bits has room for it if the source has fewer than 2^31
characters, since each token takes one. -/
def scanned (count : Nat) (elapsed : Duration) : Log.Record :=
  ⟨.info, target, "scanned " ++ toString count ++ " tokens in " ++ elapsed.display⟩

namespace Report

def ofReadFault (file : String) (fault : ReadFault) : Report :=
  ⟨.unusable, "", [unreadable file fault]⟩

/-- The report on what the source of a file lists; `elapsed` says how long that took. -/
def ofListing (file source : String) (elapsed : Duration) (l : Listing) : Report :=
  let tokens := String.join (l.tokens.map Token.listing)
  let records := l.events.map Event.record
  match l.error with
  | none => ⟨.success, tokens, records ++ [scanned l.tokens.length elapsed]⟩
  | some error =>
    match Excerpt.render error source file with
    | .ok excerpt => ⟨.invalidSource, tokens ++ excerpt, records⟩
    | .error fault => ⟨.aborted fault, tokens, records⟩

/-- The report on a file with these contents. -/
def ofContents (file : String) (elapsed : Duration) : Except ReadFault String → Report
  | .error fault => ofReadFault file fault
  | .ok source =>
    ofListing file source elapsed (.ofOpened (Scanner.openString source (some file)))

end Report

/-- How much the log shows after so many requests to say more, where the filter leaves it open. -/
def threshold : Nat → Log.Threshold
  | 0 => .upTo .warn
  | 1 => .upTo .debug
  | _ => .upTo .trace

def logFilter (verbosity : Nat) (spec : Option String) : Log.Filter :=
  .ofSpec (threshold verbosity) (spec.getD "")

/-- The entries of the log, some of several lines: complaints about the filter `spec` itself, then
the records that the filter admits. -/
def Report.log (r : Report) (verbosity : Nat) (spec : Option String) : List String :=
  Log.Filter.complaints (spec.getD "") ++
    (r.records.filter (logFilter verbosity spec).admits).map Log.Record.entry

end Lexical.CommandLine
