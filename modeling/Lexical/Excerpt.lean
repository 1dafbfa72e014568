import Lexical.Line
import Lexical.ScanError
/-! An error shown under the line of the source that it points into. -/
namespace Lexical.Excerpt

/-- The caret does not go beyond this column. -/
def maxWidth : Nat := 65535

/-- The caret belongs in column `width`, which is too far. -/
structure WidthFault where
  width : Nat
  deriving DecidableEq, Repr

def WidthFault.message (_ : WidthFault) : String := "Formatting argument out of range"

def heading (e : ScanError) : String :=
  match e.tip with
  | none => "Error: " ++ e.fault.name
  | some tip => "Error: " ++ e.fault.name ++ " (" ++ tip ++ ")"

/-- The bar before a line without a number, under that of a line with the number `n`. -/
def gutter (n : UInt32) : String :=
  String.ofList (List.replicate ((toString n).length + 1) ' ') ++ "|"

def isIndent (c : Char) : Bool := c == ' ' || c == '\t'

/-- A line as it is shown: without its indent and the blanks at its end. -/
def shown (line : String) : String :=
  String.ofList (Text.trimEnd (line.toList.dropWhile isIndent))

/-- The column of the caret under a shown line. The indent shifts it to the left, but never beyond
the first column. -/
def caretColumn (line : String) (column : UInt32) : Nat :=
  max 1 (column.toNat - (line.toList.takeWhile isIndent).length)

/-- A caret in column `width`, led up to by dashes. -/
def caret (width : Nat) : String := String.ofList (List.replicate (width - 1) '-') ++ "^"

/-- What is shown for an error at `line`. -/
def lines (e : ScanError) (file line : String) : List String :=
  let n := e.position.line
  [heading e, "-> " ++ file, gutter n, toString n ++ " | " ++ shown line,
    gutter n ++ " " ++ caret (caretColumn line e.position.column)]

/-- The excerpt of `source` for an error. A line that the source does not have is shown empty. -/
def render (e : ScanError) (source file : String) : Except WidthFault String :=
  let line := (line? source e.position.line).getD ""
  let width := caretColumn line e.position.column
  if maxWidth < width then .error ⟨width⟩
  else .ok (String.join ((lines e file line).map (· ++ "\n")))

end Lexical.Excerpt
