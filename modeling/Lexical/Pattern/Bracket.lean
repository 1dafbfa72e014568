import Lexical.Pattern.Meaning
import Lexical.Pattern.Nesting
/-! Classes between square brackets.

A class lists characters, ranges and other classes side by side. Operators combine what stands left
and right of them, all with one precedence and from left to right. -/
namespace Lexical.Pattern

inductive SetOperator
  | inter
  | diff
  | symmDiff
  deriving DecidableEq, Repr

def SetOperator.apply : SetOperator → CharSet → CharSet → CharSet
  | inter => .inter
  | diff => .diff
  | symmDiff => .symmDiff

/-- What a class or a part of one holds. -/
structure Item where
  set : CharSet
  span : Span
  nesting : Nesting
  deriving DecidableEq, Repr

/-- Items side by side, from the first to the last. -/
structure Operand where
  ranges : List (Nat × Nat)
  span : Span
  count : Nat
  nesting : Nesting
  deriving DecidableEq, Repr

namespace Operand

/-- No item, at a place. -/
def nothing (offset : Nat) : Operand := ⟨[], ⟨offset, offset⟩, 0, []⟩

def add (o : Operand) (i : Item) : Operand :=
  ⟨i.set.ranges ++ o.ranges, ⟨if o.count = 0 then i.span.start else o.span.start, i.span.stop⟩,
    o.count + 1, o.nesting.beside i.nesting⟩

/-- The items as one. Several are a part of their own. -/
def item (o : Operand) : Item :=
  ⟨.ofRanges o.ranges, o.span, if 2 ≤ o.count then o.span :: o.nesting else o.nesting⟩

end Operand

/-- A class that is not closed yet. -/
structure Bracket where
  /-- Its beginning, as a flaw shows it. -/
  opening : Span
  negated : Bool
  /-- What stands left of an operator, and the operator. -/
  left : Option (Item × SetOperator)
  items : Operand
  deriving DecidableEq, Repr

namespace Bracket

def add (b : Bracket) (i : Item) : Bracket := { b with items := b.items.add i }

/-- All that was read between the brackets, and the first flaw of joining it. Of the operands the
right one is looked at first. -/
def joined (f : Flags) (b : Bracket) : Item × Option Flaw :=
  let right := b.items.item
  match b.left with
  | none => (right, none)
  | some (left, op) =>
    let span : Span := ⟨left.span.start, right.span.stop⟩
    (⟨op.apply (f.fold left.set) (f.fold right.set), span,
        span :: left.nesting.beside right.nesting⟩,
      (f.caseFlaw? right.set right.span).or (f.caseFlaw? left.set left.span))

/-- Reads dashes, which stand for themselves at the beginning of a class. -/
def readDashes (opening : Nat) (b : Bracket) (c : Cursor) : Except Flaw (Bracket × Cursor) :=
  match _ahead : c.char? with
  | some '-' =>
    if c.next.atEnd then .error (Defect.unclosedClass.within ⟨opening, opening⟩)
    else readDashes opening (b.add ⟨.single '-', c.ahead, []⟩) c.next
  | _ => .ok (b, c)
termination_by c.rest.length
decreasing_by exact Cursor.length_next_lt _ahead

/-- Reads the beginning of a class: its bracket, its sign if it is negated, and what stands for
itself there only, dashes or else a closing bracket. -/
def readOpening (c : Cursor) : Except Flaw (Bracket × Cursor) := do
  let unclosed (d : Cursor) : Flaw := Defect.unclosedClass.within (d.since c.offset)
  let inside := c.next
  if inside.atEnd then throw (unclosed inside)
  let negated := inside.char? == some '^'
  let first := if negated then inside.next else inside
  if first.atEnd then throw (unclosed first)
  let (b, d) ← readDashes c.offset ⟨c.ahead, negated, none, .nothing first.offset⟩ first
  if b.items.count == 0 && d.char? == some ']' then
    let behind := d.next
    if behind.atEnd then throw (unclosed behind)
    return ({ b.add ⟨.single ']', d.ahead, []⟩ with opening := behind.since c.offset }, behind)
  return ({ b with opening := d.since c.offset }, d)

/-- Reads the name of an ASCII class between `[:` and `:]`. -/
def readNamed? (c : Cursor) : Option (Bool × CharSet × Cursor) := do
  let inside ← c.accept? "[:"
  let (negated, d) := match inside.accept? "^" with
    | some d => (true, d)
    | none => (false, inside)
  let name := d.rest.takeWhile (· != ':')
  let set ← CharSet.named? (String.ofList name)
  let behind ← (d.advance name.length).accept? ":]"
  return (negated, set, behind)

def readOperator? (c : Cursor) : Option (SetOperator × Cursor) :=
  [("&&", .inter), ("--", .diff), ("~~", .symmDiff)].findSome? fun (sign, op) =>
    (c.accept? sign).map fun d => (op, d)

/-- Reads an escape, or `x` as itself. -/
def readItem (x : Char) (c : Cursor) : Except Flaw (Escape × Cursor) :=
  if x = '\\' then Escape.read c else .ok (.literal x, c.advance 1)

/-- The character of an item that is one, and whether it is written as a byte. -/
def endpoint (e : Escape) (span : Span) : Except Flaw (Char × Bool) :=
  match e with
  | .literal x => .ok (x, false)
  | .byte x => .ok (x, true)
  | _ => .error (Defect.rangeOfClasses.within span)

def single (f : Flags) (e : Escape) (span : Span) : Except Flaw Meaning :=
  match e with
  | .literal x => .ok ⟨.single x, f.memberFlaw? x false span⟩
  | .byte x => .ok ⟨.single x, f.memberFlaw? x true span⟩
  | .charClass set negated => .ok (f.escapedClass set negated span)
  | .property name => .ok (f.property name span)
  | .look _ => .error (Defect.invalidClassEscape.within span)

/-- Reads an item that begins with `x`, or a range from it. The span is that of what was read. -/
def readMember (f : Flags) (opening : Span) (x : Char) (c : Cursor) :
    Except Flaw (Meaning × Span × Cursor) := do
  let (first, behind) ← readItem x c
  let firstSpan := behind.since c.offset
  let d := behind.skipIdle
  if d.atEnd then throw (Defect.unclosedClass.within opening)
  if d.char? != some '-' || d.beyond? == some ']' || d.beyond? == some '-' then
    return (← single f first firstSpan, firstSpan, d)
  let dash := d.next
  match dash.char? with
  | none => throw (Defect.unclosedClass.within opening)
  | some y =>
    let (last, after) ← readItem y dash
    let lastSpan := after.since dash.offset
    let (a, aIsByte) ← endpoint first firstSpan
    let (b, bIsByte) ← endpoint last lastSpan
    let span := after.since c.offset
    if b < a then throw (Defect.invalidClassRange.within span)
    let flaw := (f.memberFlaw? a aIsByte firstSpan).or (f.memberFlaw? b bIsByte lastSpan)
    return (⟨.range a b, flaw⟩, span, after)

/-- Reads on in the class `b`, which stands in the classes `outer`, until all are closed. -/
def readItems (f : Flags) :
    Nat → Bracket → List Bracket → Option Flaw → Cursor → Except Flaw (Item × Option Flaw × Cursor)
  | 0, b, _, _, _ => .error (Defect.unclosedClass.within b.opening)
  | fuel + 1, b, outer, flaw, c =>
    let c := c.skipIdle
    match c.char? with
    | none => .error (Defect.unclosedClass.within b.opening)
    | some '[' =>
      match readNamed? c with
      | some (negated, set, d) =>
        let span := d.since c.offset
        let m := f.charClass set negated span
        readItems f fuel (b.add ⟨m.set, span, []⟩) outer (flaw.or m.flaw) d
      | none => do
        let (inner, d) ← readOpening c
        readItems f fuel inner (b :: outer) flaw d
    | some ']' =>
      let d := c.advance 1
      let span := d.since b.opening.start
      let (inside, joining) := b.joined f
      let m := f.charClass inside.set b.negated span
      let flaw := (flaw.or joining).or m.flaw
      let item : Item := ⟨m.set, span, span :: inside.nesting⟩
      match outer with
      | [] => .ok (item, flaw, d)
      | around :: outer => readItems f fuel (around.add item) outer flaw d
    | some x =>
      match readOperator? c with
      | some (op, d) =>
        let (left, joining) := b.joined f
        let b := { b with left := some (left, op), items := .nothing d.offset }
        readItems f fuel b outer (flaw.or joining) d
      | none => do
        let (m, span, d) ← readMember f b.opening x c
        readItems f fuel (b.add ⟨m.set, span, []⟩) outer (flaw.or m.flaw) d

/-- Reads a class from its opening bracket on, with its first flaw of meaning. -/
def read (f : Flags) (c : Cursor) : Except Flaw (Item × Option Flaw × Cursor) := do
  let (b, d) ← readOpening c
  readItems f (d.rest.length + 1) b [] none d

end Bracket

end Lexical.Pattern
