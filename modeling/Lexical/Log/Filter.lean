import Lexical.Log.Record
import Lexical.Pattern.Parse
/-! Filters, which decide record by record what is shown.

A filter is written as a list of directives between commas: a level for all targets, a target with a
level, or a target alone, which shows all its records. For a record the directive with the longest
target that begins the record's target decides; of two directives for one target, the later. Behind a
slash there may be a pattern, which then has to occur in the record's message too. -/
namespace Lexical.Log

/-- How far down the levels records are shown. -/
inductive Threshold
  | off
  | upTo (level : Level)
  deriving DecidableEq, Repr

namespace Threshold

def rank : Threshold → Nat
  | off => 0
  | upTo level => level.rank

def admits (t : Threshold) (level : Level) : Bool := level.rank ≤ t.rank

def all : Threshold := upTo .trace

/-- The name of a level, in any letter case. -/
def ofName? (name : List Char) : Option Threshold :=
  let name := name.map Char.toLower
  if name = "off".toList then some off
  else if name = "error".toList then some (upTo .error)
  else if name = "warn".toList then some (upTo .warn)
  else if name = "info".toList then some (upTo .info)
  else if name = "debug".toList then some (upTo .debug)
  else if name = "trace".toList then some (upTo .trace)
  else none

end Threshold

/-- A threshold for the targets that begin with `target`, or for all that no other names. -/
structure Directive where
  target : Option String
  threshold : Threshold
  deriving DecidableEq, Repr

namespace Directive

/-- How closely a directive speaks about a target, if it does: one for all targets least, then the
longer its own target the more. -/
def closeness? (d : Directive) (target : String) : Option Nat :=
  match d.target with
  | none => some 0
  | some name => if name.toList.isPrefixOf target.toList then some (name.length + 1) else none

/-- Reads one directive. What cannot be read is named in the error. -/
def parse (text : List Char) : Except String Directive :=
  match text.splitOn '=' with
  | [name] =>
    match Threshold.ofName? name with
    | some threshold => .ok ⟨none, threshold⟩
    | none => .ok ⟨some (String.ofList name), .all⟩
  | [target, level] =>
    let level := Text.trim level
    if level.isEmpty then .ok ⟨some (String.ofList target), .all⟩
    else match Threshold.ofName? level with
      | some threshold => .ok ⟨some (String.ofList target), threshold⟩
      | none => .error (String.ofList level)
  | _ => .error (String.ofList text)

/-- The directives of a list, each as it reads. -/
def parseAll (list : List Char) : List (Except String Directive) :=
  (((list.splitOn ',').map Text.trim).filter (!·.isEmpty)).map parse

end Directive

/-- The text of a filter as it reads. -/
structure Spec where
  directives : List (Except String Directive)
  pattern : Option (Except PatternError Pattern)

/-- Reads the text of a filter, in which one slash may stand and no more. -/
def Spec.parse? (text : String) : Option Spec :=
  match text.toList.splitOn '/' with
  | [list] => some ⟨Directive.parseAll list, none⟩
  | [list, pattern] => some ⟨Directive.parseAll list, some (Pattern.parse (String.ofList pattern))⟩
  | _ => none

/-- Directives in the order in which they were given, and what has to occur in a message. -/
structure Filter where
  directives : List Directive
  pattern : Option Pattern
  deriving DecidableEq, Repr

namespace Filter

/-- A filter with the threshold `base` where the text `spec` gives no level for all targets. What
cannot be read is left out. -/
def ofSpec (base : Threshold) (spec : String) : Filter :=
  match Spec.parse? spec with
  | none => ⟨[⟨none, base⟩], none⟩
  | some s =>
    ⟨⟨none, base⟩ :: s.directives.filterMap Except.toOption, s.pattern.bind Except.toOption⟩

def ignored (text : String) : String :=
  "warning: invalid logging spec '" ++ text ++ "', ignoring it"

/-- A text for each part of a filter that cannot be read. -/
def complaints (spec : String) : List String :=
  match Spec.parse? spec with
  | none => [ignored spec ++ " (too many '/'s)"]
  | some s =>
    let directives := s.directives.filterMap fun
      | .ok _ => none
      | .error text => some (ignored text)
    directives ++ match s.pattern with
      | some (.error e) => ["warning: invalid regex filter - " ++ e.message]
      | _ => []

/-- The directive that decides for `target`: of the closest ones the last. -/
def decisive? (f : Filter) (target : String) : Option Directive :=
  f.directives.foldl (fun best d =>
    match d.closeness? target, best.bind (·.closeness? target) with
    | none, _ => best
    | some _, none => some d
    | some new, some old => if old ≤ new then some d else best) none

def admits (f : Filter) (r : Record) : Bool :=
  (f.decisive? r.target).any (·.threshold.admits r.level) &&
    f.pattern.all (·.occursIn r.message)

end Filter

end Lexical.Log
