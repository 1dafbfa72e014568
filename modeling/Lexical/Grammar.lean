import Lexical.CharClass
import Lexical.Token
/-! The grammar of the scanned language: what a token may look like, what may stand between tokens,
and what may stand right behind one. -/
namespace Lexical.Grammar

/-- Letters, digits and underscores, of which the first is no digit. -/
def IsWord (cs : List Char) : Prop :=
  ∃ c rest, cs = c :: rest ∧ (isLetter c || isUnderscore c) = true ∧
    ∀ d ∈ rest, isWordPart d = true

def IsInteger (cs : List Char) : Prop := cs ≠ [] ∧ ∀ c ∈ cs, isDigit c = true

/-- A point with digits behind it and, perhaps, before it. -/
def IsFraction (cs : List Char) : Prop :=
  ∃ whole part, cs = whole ++ '.' :: part ∧ (∀ c ∈ whole, isDigit c = true) ∧ IsInteger part

/-- The texts of the tokens of a kind. -/
def Shape (cs : List Char) : TokenKind → Prop
  | .identifier => IsWord cs ∧ String.ofList cs ∉ reservedWords
  | .reserved => String.ofList cs ∈ reservedWords
  | .number => IsInteger cs ∨ IsFraction cs
  | .assignment => cs = ['=']
  | .relOperator => cs = ['=', '='] ∨ cs = ['!', '='] ∨ cs = ['<', '='] ∨ cs = ['>', '='] ∨
      cs = ['<'] ∨ cs = ['>'] ∨ cs = ['!']
  | .mathOperator => ∃ c, cs = [c] ∧ isMathOperator c = true
  | .parenthesis => ∃ c, cs = [c] ∧ isParenthesis c = true

def WellFormed (t : Token) : Prop := Shape t.text.toList t.kind

/-- A comment without the end of its line. -/
def IsComment (cs : List Char) : Prop :=
  ∃ body, cs = '#' :: body ∧ ∀ c ∈ body, isEndOfLine c = false

/-- Blanks and comments, each comment closed by the end of its line. -/
inductive Trivia : List Char → Prop
  | nil : Trivia []
  | blank {c : Char} {cs : List Char} (is : isWhitespace c = true) (rest : Trivia cs) :
      Trivia (c :: cs)
  | comment {cs : List Char} {c : Char} {more : List Char} (is : IsComment cs)
      (closed : isEndOfLine c = true) (rest : Trivia more) : Trivia (cs ++ c :: more)

/-- What may stand behind the last token: the end of the source closes a comment too. -/
def FinalTrivia (cs : List Char) : Prop :=
  Trivia cs ∨ ∃ before last, cs = before ++ last ∧ Trivia before ∧ IsComment last

/-- The characters that may stand right behind a token. -/
def MayFollow (t : Token) (c : Char) : Prop :=
  match t.kind with
  | .identifier | .reserved => isWordPart c = false ∧ isInvalid c = false
  | .number =>
    if '.' ∈ t.text.toList then isDigit c = false ∧ isPoint c = false
    else isDigit c = false ∧ isPoint c = false ∧ isLetter c = false ∧ isInvalid c = false
  | .assignment => isAssignment c = false
  | .relOperator => t.text.length = 1 → isAssignment c = false
  | .mathOperator | .parenthesis => True

/-- A text laid out as tokens, each with the trivia before it, and `rest` behind the last. A token
that nothing separates from what comes next has a character there that may follow it. -/
inductive Layout (rest : List Char) : List Token → List Char → Prop
  | nil : Layout rest [] rest
  | cons {trivia : List Char} {t : Token} {ts : List Token} {cs : List Char}
      (blank : Trivia trivia) (formed : WellFormed t) (apart : ∀ c ∈ cs.head?, MayFollow t c)
      (more : Layout rest ts cs) : Layout rest (t :: ts) (trivia ++ t.text.toList ++ cs)

end Lexical.Grammar
