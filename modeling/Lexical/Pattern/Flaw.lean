import Lexical.Position
/-! What can be wrong with the text of a pattern, and how it is shown. -/
namespace Lexical.Pattern

inductive Defect
  | unclosedClass
  | invalidClassEscape
  | invalidClassRange
  | rangeOfClasses
  | invalidDecimal
  | emptyHex
  | invalidHex
  | invalidHexDigit
  | unfinishedEscape
  | unknownEscape
  | danglingNegation
  | repeatedNegation
  | duplicateFlag
  | unfinishedFlags
  | unknownFlag
  | duplicateName
  | emptyName
  | invalidNameCharacter
  | unclosedName
  | unclosedGroup
  | unopenedGroup
  | invalidCountRange
  | emptyCount
  | unclosedCount
  | nothingToRepeat
  | unclosedWordLook
  | unknownWordLook
  | unfinishedWordLook
  | invalidProperty
  | backreference
  | lookAround
  | tooDeep
  /-- Bytes are asked for that are no characters. -/
  | bytes
  /-- A character beyond ASCII is asked for among bytes. -/
  | beyondBytes
  | unknownProperty
  | unknownPropertyValue
  /-- The classes by escape are known for ASCII only. -/
  | classBeyondAscii
  /-- The cases of letters are known for ASCII only. -/
  | caseBeyondAscii
  deriving DecidableEq, Repr

def Defect.message : Defect → String
  | unclosedClass => "unclosed character class"
  | invalidClassEscape => "invalid escape sequence found in character class"
  | invalidClassRange => "invalid character class range, the start must be <= the end"
  | rangeOfClasses => "invalid range boundary, must be a literal"
  | invalidDecimal => "decimal literal invalid"
  | emptyHex => "hexadecimal literal empty"
  | invalidHex => "hexadecimal literal is not a Unicode scalar value"
  | invalidHexDigit => "invalid hexadecimal digit"
  | unfinishedEscape => "incomplete escape sequence, reached end of pattern prematurely"
  | unknownEscape => "unrecognized escape sequence"
  | danglingNegation => "dangling flag negation operator"
  | repeatedNegation => "flag negation operator repeated"
  | duplicateFlag => "duplicate flag"
  | unfinishedFlags => "expected flag but got end of regex"
  | unknownFlag => "unrecognized flag"
  | duplicateName => "duplicate capture group name"
  | emptyName => "empty capture group name"
  | invalidNameCharacter => "invalid capture group character"
  | unclosedName => "unclosed capture group name"
  | unclosedGroup => "unclosed group"
  | unopenedGroup => "unopened group"
  | invalidCountRange => "invalid repetition count range, the start must be <= the end"
  | emptyCount => "repetition quantifier expects a valid decimal"
  | unclosedCount => "unclosed counted repetition"
  | nothingToRepeat => "repetition operator missing expression"
  | unclosedWordLook =>
    "special word boundary assertion is either unclosed or contains an invalid character"
  | unknownWordLook => "unrecognized special word boundary assertion, valid choices are: " ++
      "start, end, start-half or end-half"
  | unfinishedWordLook => "found either the beginning of a special word boundary or a bounded " ++
      "repetition on a \\b with an opening brace, but no closing brace"
  | invalidProperty => "invalid Unicode character class"
  | backreference => "backreferences are not supported"
  | lookAround => "look-around, including look-ahead and look-behind, is not supported"
  | tooDeep => "exceed the maximum number of nested parentheses/brackets (250)"
  | bytes => "pattern can match invalid UTF-8"
  | beyondBytes => "Unicode not allowed here"
  | unknownProperty => "Unicode property not found"
  | unknownPropertyValue => "Unicode property value not found"
  | classBeyondAscii => "Unicode-aware Perl class not found " ++
      "(make sure the unicode-perl feature is enabled)"
  | caseBeyondAscii => "Unicode-aware case insensitivity matching is not available " ++
      "(make sure the unicode-case feature is enabled)"

/-- A part of a pattern, by the numbers of characters before its ends. -/
structure Span where
  start : Nat
  stop : Nat
  deriving DecidableEq, Repr

/-- A defect, where it is, and with what it clashes. -/
structure Flaw where
  defect : Defect
  span : Span
  earlier : Option Span
  deriving DecidableEq, Repr

/-- The flaw of a defect that clashes with nothing. -/
def Defect.within (d : Defect) (span : Span) : Flaw := ⟨d, span, none⟩

namespace Flaw

/-- A span by the positions of its ends in a text. -/
structure Region where
  start : Position
  stop : Position
  deriving DecidableEq, Repr

def Region.ofSpan (text : List Char) (s : Span) : Region :=
  ⟨.behind (text.take s.start), .behind (text.take s.stop)⟩

namespace Region

def isOneLine (r : Region) : Bool := r.start.line == r.stop.line

/-- Whether a region stands before another or begins with it and ends no later. -/
def le (a b : Region) : Bool :=
  a.start.line < b.start.line || (a.start.line == b.start.line &&
    (a.start.column < b.start.column || (a.start.column == b.start.column &&
      (a.stop.line < b.stop.line || (a.stop.line == b.stop.line && a.stop.column ≤ b.stop.column)))))

def describe (r : Region) : String :=
  "on line " ++ toString r.start.line ++ " (column " ++ toString r.start.column ++
    ") through line " ++ toString r.stop.line ++ " (column " ++ toString (r.stop.column - 1) ++ ")"

end Region

def blanks (n : Nat) : String := String.ofList (List.replicate n ' ')

/-- Carets under regions of one line, the first column `done` columns on. At least one caret stands
for a region. -/
def carets (done : Nat) : List Region → String
  | [] => ""
  | r :: rs =>
    let lead := r.start.column.toNat - 1 - done
    let width := max 1 (r.stop.column.toNat - r.start.column.toNat)
    blanks lead ++ String.ofList (List.replicate width '^') ++ carets (done + lead + width) rs

/-- The lines of a text. A line feed ends a line, with a carriage return before it. -/
def textLines (text : List Char) : List (List Char) :=
  let pieces := text.splitOn '\n'
  let dropReturn (line : List Char) : List Char :=
    if line.getLast? = some '\r' then line.dropLast else line
  pieces.dropLast.map dropReturn ++ match pieces.getLast? with
    | none | some [] => []
    | some last => [last]

/-- Shown lines, each with the carets under it. Lines have numbers where there are several. -/
def shownLines (text : List Char) (regions : List Region) : List String :=
  let lines := textLines text
  let count := lines.length + if text.getLast? = some '\n' then 1 else 0
  let width := (toString count).length
  let lead := if count ≤ 1 then 4 else width + 2
  (lines.zipIdx 1).flatMap fun (line, n) =>
    let label := if count ≤ 1 then blanks 4
      else blanks (width - (toString n).length) ++ toString n ++ ": "
    let marked := regions.filter fun r => r.isOneLine && r.start.line.toNat == n
    (label ++ String.ofList line) ::
      if marked.isEmpty then [] else [blanks lead ++ carets 0 marked]

/-- The text of a pattern with its flaw marked. A text of several lines stands between rules, and a
flaw that goes over a line's end is described below. -/
def message (f : Flaw) (text : String) : String :=
  let chars := text.toList
  let regions := ((f.span :: f.earlier.toList).map (Region.ofSpan chars)).mergeSort Region.le
  let shown := shownLines chars regions
  let rule := String.ofList (List.replicate 79 '~')
  let body := if chars.contains '\n' then
      rule :: shown ++ rule :: (regions.filter (!·.isOneLine)).map Region.describe
    else shown
  "\n".intercalate ("regex parse error:" :: body ++ ["error: " ++ f.defect.message])

end Flaw

end Lexical.Pattern
