import Lexical.Pattern.Cursor
/-! How many times something is repeated, as braces say it. -/
namespace Lexical.Pattern

/-- From `least` to `most` times, without a bound if there is no `most`. -/
structure Count where
  least : Nat
  most : Option Nat
  deriving DecidableEq, Repr

namespace Count

/-- Reads a number with blanks around it, which has to fit into 32 bits. Whether there is one may not
matter, so the cursor stands behind it in either case. -/
def readNumber (c : Cursor) : Except Flaw Nat × Cursor :=
  let d := c.skipBlanks
  let (digits, e) := d.takeWhile Char.isDigit
  let n := digits.foldl (fun n d => 10 * n + (d.toNat - '0'.toNat)) 0
  let number := if digits.isEmpty then .error (Defect.emptyCount.within (e.since d.offset))
    else if n < UInt32.size then .ok n
    else .error (Defect.invalidDecimal.within (e.since d.offset))
  (number, e.skipBlanks)

/-- Reads a question mark if there is one. -/
def readMark (c : Cursor) : Bool × Cursor :=
  match c.accept? "?" with
  | some d => (true, d)
  | none => (false, c)

/-- Reads the closing brace of the count that begins at `start`, and a question mark behind it. -/
def close (start : Nat) (count : Count) (c : Cursor) : Except Flaw (Count × Bool × Cursor) :=
  if c.char? = some '\x7d' then
    let (marked, d) := readMark c.next
    if count.most.any (· < count.least) then
      .error (Defect.invalidCountRange.within (d.since start))
    else .ok (count, marked, d)
  else .error (Defect.unclosedCount.within (c.since start))

/-- Reads a count from its opening brace on, and whether a question mark follows. -/
def read (c : Cursor) : Except Flaw (Count × Bool × Cursor) := do
  let unclosed (d : Cursor) : Flaw := Defect.unclosedCount.within (d.since c.offset)
  let inside := c.next
  if inside.atEnd then throw (unclosed inside)
  let (least, d) := readNumber inside
  if d.atEnd then throw (unclosed d)
  if d.char? != some ',' then
    let n ← least
    close c.offset ⟨n, some n⟩ d
  else
    let e := d.next
    if e.atEnd then throw (unclosed e)
    if e.char? == some '\x7d' then close c.offset ⟨← least, none⟩ e
    else
      let least ← least
      let (most, behind) := readNumber e
      close c.offset ⟨least, some (← most)⟩ behind

end Count

end Lexical.Pattern
