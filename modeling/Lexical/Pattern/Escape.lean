import Lexical.Pattern.Basic
import Lexical.Pattern.Cursor
/-! Escapes, which begin with a backslash. -/
namespace Lexical.Pattern

inductive Escape
  | literal (char : Char)
  /-- A character by two hexadecimal digits, which number a byte where bytes are meant. -/
  | byte (char : Char)
  | charClass (set : CharSet) (negated : Bool)
  | property (name : List Char)
  | look (look : Look)
  deriving DecidableEq, Repr

namespace Escape

def isHexDigit (c : Char) : Bool :=
  c.isDigit || ('a' ≤ c && c ≤ 'f') || ('A' ≤ c && c ≤ 'F')

def hexDigitValue (c : Char) : Nat :=
  if c.isDigit then c.toNat - '0'.toNat else c.toLower.toNat - 'a'.toNat + 10

/-- The character whose number these hexadecimal digits write. -/
def charNumbered? (digits : List Char) : Option Char :=
  let n := digits.foldl (fun n d => 16 * n + hexDigitValue d) 0
  if n.isValidChar then some (Char.ofNat n) else none

/-- Reads so many hexadecimal digits. -/
def readHexDigits : Nat → Cursor → Except Flaw (List Char × Cursor)
  | 0, c => .ok ([], c)
  | n + 1, c =>
    match c.char? with
    | none => .error (Defect.unfinishedEscape.within c.here)
    | some d =>
      if isHexDigit d then do
        let (digits, behind) ← readHexDigits n c.next
        return (d :: digits, behind)
      else .error (Defect.invalidHexDigit.within c.ahead)

/-- Reads the number of a character between braces. -/
def readBraced (c : Cursor) : Except Flaw (Escape × Cursor) :=
  let (digits, d) := c.next.takeWhile isHexDigit
  match d.char? with
  | none => .error (Defect.unfinishedEscape.within (d.since c.offset))
  | some '\x7d' =>
    if digits.isEmpty then .error (Defect.emptyHex.within (d.next.since c.offset))
    else match charNumbered? digits with
      | some x => .ok (literal x, d.next)
      | none => .error (Defect.invalidHex.within ⟨c.offset + 1, d.offset⟩)
  | some _ => .error (Defect.invalidHexDigit.within d.ahead)

/-- Reads the number of a character from the letter on that says how many digits it has, where it
has no braces. -/
def readNumbered (letter : Char) (c : Cursor) : Except Flaw (Escape × Cursor) :=
  let c := c.next
  match c.char? with
  | none => .error (Defect.unfinishedEscape.within c.here)
  | some '\x7b' => readBraced c
  | some _ => do
    let count := if letter = 'x' then 2 else if letter = 'u' then 4 else 8
    let (digits, behind) ← readHexDigits count c
    match charNumbered? digits with
    | some x => .ok (if letter = 'x' then byte x else literal x, behind)
    | none => .error (Defect.invalidHex.within (behind.since c.offset))

/-- Reads the name of a property, a letter or a text between braces. -/
def readProperty (c : Cursor) : Except Flaw (Escape × Cursor) :=
  let c := c.next
  match c.char? with
  | none => .error (Defect.unfinishedEscape.within c.here)
  | some '\x7b' =>
    let (name, d) := c.next.takeWhile (· != '\x7d')
    if d.atEnd then .error (Defect.unfinishedEscape.within d.here)
    else .ok (property name, d.advance 1)
  | some '\\' => .error (Defect.invalidProperty.within c.ahead)
  | some letter => .ok (property [letter], c.next)

def wordLook? : String → Option Look
  | "start" => some .wordStart
  | "end" => some .wordEnd
  | "start-half" => some .wordStartHalf
  | "end-half" => some .wordEndHalf
  | _ => none

def isNameChar (c : Char) : Bool := c.isAlpha || c == '-'

/-- Reads what stands behind the escape of a word boundary that begins at `start`: the name of a look
between braces, or nothing that belongs to it. -/
def readWordLook (start : Nat) (c : Cursor) : Except Flaw (Look × Cursor) :=
  if c.char? = some '\x7b' then
    let inside := c.next
    let (name, d) := inside.takeWhile isNameChar
    if inside.atEnd then .error (Defect.unfinishedWordLook.within (inside.since start))
    else if name.isEmpty then .ok (.wordBoundary, c)
    else if d.char? = some '\x7d' then
      match wordLook? (String.ofList name) with
      | some l => .ok (l, d.advance 1)
      | none => .error (Defect.unknownWordLook.within (d.since inside.offset))
    else .error (Defect.unclosedWordLook.within (d.since c.offset))
  else .ok (.wordBoundary, c)

/-- What one character behind a backslash stands for. -/
def ofChar? : Char → Option Escape
  | 'd' => some (charClass .digit false)
  | 'D' => some (charClass .digit true)
  | 's' => some (charClass .space false)
  | 'S' => some (charClass .space true)
  | 'w' => some (charClass .word false)
  | 'W' => some (charClass .word true)
  | 'a' => some (literal '\x07')
  | 'f' => some (literal '\x0c')
  | 'n' => some (literal '\n')
  | 'r' => some (literal '\r')
  | 't' => some (literal '\t')
  | 'v' => some (literal '\x0b')
  | 'A' => some (look .textStart)
  | 'z' => some (look .textEnd)
  | 'B' => some (look .noWordBoundary)
  | '<' => some (look .wordStart)
  | '>' => some (look .wordEnd)
  | c => if c.toNat < 128 && !c.isAlphanum then some (literal c) else none

/-- Reads an escape from its backslash on. -/
def read (c : Cursor) : Except Flaw (Escape × Cursor) :=
  let d := c.advance 1
  match d.char? with
  | none => .error (Defect.unfinishedEscape.within (d.since c.offset))
  | some 'x' => readNumbered 'x' d
  | some 'u' => readNumbered 'u' d
  | some 'U' => readNumbered 'U' d
  | some 'p' | some 'P' => readProperty d
  | some 'b' => do
    let (found, behind) ← readWordLook c.offset (d.advance 1)
    return (look found, behind)
  | some letter =>
    let both := (d.advance 1).since c.offset
    if letter.isDigit then .error (Defect.backreference.within both)
    else match ofChar? letter with
      | some escape => .ok (escape, d.advance 1)
      | none => .error (Defect.unknownEscape.within both)

end Escape

end Lexical.Pattern
