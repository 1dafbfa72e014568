import Lexical.Pattern.Cursor
import Lexical.Text.Alphabetic
/-! What stands at the beginning of a group: nothing, a name or flags. -/
namespace Lexical.Pattern

/-- A letter among flags, or the dash that clears the flags behind it. -/
structure FlagSign where
  char : Char
  span : Span
  deriving DecidableEq, Repr

inductive GroupHead
  | plain
  | named (name : List Char) (span : Span)
  | flagged (signs : List FlagSign)
  /-- No group: flags for the rest of the group around. -/
  | setting (signs : List FlagSign)
  deriving DecidableEq, Repr

namespace GroupHead

def beginsName (c : Char) : Bool := c == '_' || Text.isAlphabetic c

def goesOnName (c : Char) : Bool :=
  beginsName c || Text.isNumeral c || c == '.' || c == '[' || c == ']'

/-- Reads a name and the angle bracket behind it. -/
def readName (c : Cursor) : Except Flaw (GroupHead × Cursor) :=
  let name := match c.rest with
    | x :: xs => if beginsName x then x :: xs.takeWhile goesOnName else []
    | [] => []
  let d := c.advance name.length
  match d.char? with
  | none => .error (Defect.unclosedName.within d.here)
  | some '>' =>
    if name.isEmpty then .error (Defect.emptyName.within c.here)
    else .ok (named name (d.since c.offset), d.advance 1)
  | some _ => .error (Defect.invalidNameCharacter.within d.ahead)

/-- Reads flags behind those that were `seen`, up to a colon or a closing parenthesis. -/
def readFlags (seen : List FlagSign) (c : Cursor) : Except Flaw (List FlagSign × Cursor) :=
  match _ahead : c.char? with
  | none => .error (Defect.unfinishedFlags.within c.here)
  | some x =>
    if x = ':' ∨ x = ')' then
      match seen.getLast? with
      | some ⟨'-', span⟩ => .error (Defect.danglingNegation.within span)
      | _ => .ok (seen, c)
    else if !"-imsUuRx".toList.contains x then .error (Defect.unknownFlag.within c.ahead)
    else match seen.find? (·.char == x) with
      | some earlier =>
        .error ⟨if x = '-' then .repeatedNegation else .duplicateFlag, c.ahead, some earlier.span⟩
      | none => readFlags (seen ++ [⟨x, c.ahead⟩]) (c.advance 1)
termination_by c.rest.length
decreasing_by exact Cursor.length_advance_one_lt _ahead

/-- Reads the beginning of a group from its parenthesis on. -/
def read (c : Cursor) : Except Flaw (GroupHead × Cursor) :=
  let inside := c.next
  match ["?=", "?!", "?<=", "?<!"].findSome? inside.accept? with
  | some d => .error (Defect.lookAround.within (d.since c.offset))
  | none =>
    match ["?P<", "?<"].findSome? inside.accept? with
    | some d => readName d
    | none =>
      match inside.accept? "?" with
      | none => .ok (plain, inside)
      | some d =>
        if d.atEnd then .error (Defect.unclosedGroup.within c.ahead)
        else do
          let (signs, e) ← readFlags [] d
          if e.char? = some ':' then return (flagged signs, e.advance 1)
          if signs.isEmpty then throw (Defect.nothingToRepeat.within inside.here)
          return (setting signs, e.advance 1)

end GroupHead

end Lexical.Pattern
