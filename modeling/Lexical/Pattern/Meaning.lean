import Lexical.Pattern.Escape
/-! What the parts of a pattern stand for under its flags.

Classes by escape, properties and the cases of letters are known for ASCII alone, so where all
characters are meant they are flaws. Where bytes are meant, only what is made of whole characters
has no flaw. -/
namespace Lexical.Pattern

structure Flags where
  anyCase : Bool
  /-- The ends of lines are met by `^` and `$`. -/
  multiline : Bool
  /-- Line ends are met by a dot. -/
  dotAll : Bool
  /-- A carriage return ends a line too. -/
  crlf : Bool
  /-- Not all characters are meant but bytes, which are ASCII. -/
  bytes : Bool
  freeSpacing : Bool
  /-- Repetitions are lazy unless a question mark says otherwise. -/
  lazyFirst : Bool
  deriving DecidableEq, Repr

/-- The characters that a part stands for, and the first flaw if it cannot be meant. -/
structure Meaning where
  set : CharSet
  flaw : Option Flaw
  deriving DecidableEq, Repr

namespace Flags

def standard : Flags := ⟨false, false, false, false, false, false, false⟩

/-- Sets or clears the flag of a letter. -/
def put (f : Flags) (letter : Char) (on : Bool) : Flags :=
  match letter with
  | 'i' => { f with anyCase := on }
  | 'm' => { f with multiline := on }
  | 's' => { f with dotAll := on }
  | 'R' => { f with crlf := on }
  | 'u' => { f with bytes := !on }
  | 'x' => { f with freeSpacing := on }
  | 'U' => { f with lazyFirst := on }
  | _ => f

/-- The set with the cases of ASCII letters that the flags ask for. -/
def fold (f : Flags) (set : CharSet) : CharSet := if f.anyCase && f.bytes then set.anyCase else set

/-- The flaw of a set whose cases would have to be known beyond ASCII. -/
def caseFlaw? (f : Flags) (set : CharSet) (span : Span) : Option Flaw :=
  if f.anyCase && !f.bytes && !set.isEmpty then some (Defect.caseBeyondAscii.within span) else none

/-- A character on its own; `isByte` says that it is written as a byte. -/
def literal (f : Flags) (char : Char) ( isByte : Bool) (span : Span) : Meaning :=
  let set := CharSet.single char
  ⟨f.fold set,
    if f.bytes && isByte && 128 ≤ char.toNat then some (Defect.bytes.within span)
    else f.caseFlaw? set span⟩

/-- A character as one end of a range in a class. -/
def memberFlaw? (f : Flags) (char : Char) ( isByte : Bool) (span : Span) : Option Flaw :=
  if f.bytes && 128 ≤ char.toNat then
    some ((if isByte then Defect.bytes else Defect.beyondBytes).within span)
  else none

/-- A class that is closed, `set` being what is written in it. -/
def charClass (f : Flags) (set : CharSet) (negated : Bool) (span : Span) : Meaning :=
  ⟨if negated then (f.fold set).compl else f.fold set,
    if f.bytes && negated then some (Defect.bytes.within span) else f.caseFlaw? set span⟩

def escapedClass (f : Flags) (set : CharSet) (negated : Bool) (span : Span) : Meaning :=
  ⟨if negated then set.compl else set,
    if !f.bytes then some (Defect.classBeyondAscii.within span)
    else if negated then some (Defect.bytes.within span) else none⟩

/-- The name of a property as it is compared, without letter case, blanks, lines and a leading
`is`. -/
def propertyName (name : List Char) : List Char :=
  let name := match name with
    | a :: b :: rest => if a.toLower = 'i' && b.toLower = 's' then rest else name
    | _ => name
  (name.filter fun c => c.toNat < 128 && c != ' ' && c != '_' && c != '-').map Char.toLower

/-- No property is known. Three names are those of a kind of property too, of which no value is. -/
def property (f : Flags) (name : List Char) (span : Span) : Meaning :=
  let defect := if f.bytes then .beyondBytes
    else if ["cf", "sc", "lc"].contains (String.ofList (propertyName name)) then
      .unknownPropertyValue
    else .unknownProperty
  ⟨.empty, some (Defect.within defect span)⟩

def dot (f : Flags) (span : Span) : Meaning :=
  let lineEnds : CharSet := if f.dotAll then .empty
    else if f.crlf then .ofPairs [('\n', '\n'), ('\r', '\r')] else .single '\n'
  ⟨lineEnds.compl, if f.bytes then some (Defect.bytes.within span) else none⟩

def lineStart (f : Flags) : Look := if f.multiline then .lineStart f.crlf else .textStart

def lineEnd (f : Flags) : Look := if f.multiline then .lineEnd f.crlf else .textEnd

def look (f : Flags) : Look → Look
  | .textStart => .textStart
  | .textEnd => .textEnd
  | l => if f.bytes then l else .unknown

end Flags

end Lexical.Pattern
