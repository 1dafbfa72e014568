import Lexical.CharClass
import Lexical.Outcome
/-! The scanner's rules without the scanner: what a call reports, read off the text.

A call skips the longest run of blanks and comments. Then the first character says which runs make up
the lexeme, and the one character behind them settles whether it is a token or a fault. Nothing is
put back, no mode is kept and no point is counted. -/
namespace Lexical.Direct

/-- What is left behind blanks and comments. The end of a line closes a comment and is itself a
blank; the end of the text closes a comment too. -/
def skip : List Char → List Char
  | [] => []
  | c :: cs =>
    if isWhitespace c then skip cs
    else if isCommentStart c then skip (cs.dropWhile (!isEndOfLine ·))
    else c :: cs
termination_by cs => cs.length
decreasing_by
  · simp
  · exact Nat.lt_succ_of_le (List.dropWhile_sublist _).length_le

inductive Verdict
  | token (kind : TokenKind)
  | fault (fault : Fault)
  | endOfSource
  deriving DecidableEq, Repr

/-- The front of a text: a lexeme, what it is, and the character behind it if a fault takes it. -/
structure Cut where
  lexeme : List Char
  verdict : Verdict
  lost : List Char
  deriving DecidableEq, Repr

namespace Cut

def token (lexeme : List Char) (kind : TokenKind) : Cut := ⟨lexeme, .token kind, []⟩

/-- A lexeme with nothing behind it is broken off by the end of the source. -/
def unended (lexeme : List Char) : Cut := ⟨lexeme, .fault .unexpectedEndOfInput, []⟩

/-- The longest word. -/
def word (cs : List Char) : Cut :=
  let lexeme := cs.takeWhile isWordPart
  match cs.dropWhile isWordPart with
  | [] => unended lexeme
  | c :: _ =>
    if isInvalid c then ⟨lexeme, .fault (.malformedIdentifier c), [c]⟩
    else token lexeme (.ofWord (String.ofList lexeme))

/-- The longest run of digits behind `whole` and a point. A second point joins the lexeme. -/
def fraction (whole cs : List Char) : Cut :=
  let part := cs.takeWhile isDigit
  let lexeme := whole ++ '.' :: part
  match cs.dropWhile isDigit with
  | [] => unended lexeme
  | c :: _ =>
    if isPoint c then ⟨lexeme ++ [c], .fault (.malformedNumber .tooManyPoints), []⟩
    else if part.isEmpty then ⟨lexeme, .fault (.malformedNumber .trailingPoint), [c]⟩
    else token lexeme .number

/-- The longest run of digits, and a fraction if a point follows. -/
def number (cs : List Char) : Cut :=
  let lexeme := cs.takeWhile isDigit
  match cs.dropWhile isDigit with
  | [] => unended lexeme
  | c :: rest =>
    if isPoint c then fraction lexeme rest
    else if isLetter c || isInvalid c then
      ⟨lexeme, .fault (.malformedNumber (.unexpectedCharacter c)), [c]⟩
    else token lexeme .number

/-- One operator character, and an equals sign if it follows. -/
def operator (alone : TokenKind) (c : Char) : List Char → Cut
  | [] => unended [c]
  | d :: _ => if isAssignment d then token [c, d] .relOperator else token [c] alone

/-- The front of a text. Blanks and comments do not belong there, so `skip` comes first. -/
def ofText : List Char → Cut
  | [] => ⟨[], .endOfSource, []⟩
  | c :: cs =>
    match CharClass.ofChar c with
    | .letter | .underscore => word (c :: cs)
    | .digit => number (c :: cs)
    | .point => fraction [] cs
    | .assignment => operator .assignment c cs
    | .relOperator => operator .relOperator c cs
    | .mathOperator => token [c] .mathOperator
    | .parenthesis => token [c] .parenthesis
    | .invalid | .whitespace | .commentStart => ⟨[], .fault (.invalidCharacter c), [c]⟩

end Cut

/-- What a call reports that begins after `offset` characters of `source`, and where the next call
begins. A fault lies behind the lexeme, save a point too many, which is its last character. -/
def call (source : List Char) (offset : Nat) : Outcome × Nat :=
  let ahead := source.drop offset
  let cut := Cut.ofText (skip ahead)
  let trivia := ahead.length - (skip ahead).length
  let behind := offset + trivia + cut.lexeme.length
  match cut.verdict with
  | .token kind => (.token ⟨kind, String.ofList cut.lexeme⟩, behind)
  | .fault fault =>
    let place := if fault = .malformedNumber .tooManyPoints then behind - 1 else behind
    (.failure ⟨fault, .behind (source.take place), String.ofList cut.lexeme⟩,
      behind + cut.lost.length)
  | .endOfSource => (.endOfSource, behind)

end Lexical.Direct
