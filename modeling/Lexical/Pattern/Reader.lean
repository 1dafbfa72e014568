import Lexical.Pattern.Bracket
import Lexical.Pattern.Count
import Lexical.Pattern.GroupHead
/-! Reading a pattern from its text.

Defects of form count before those of meaning, whichever comes first in the text, and between them
comes the depth of nesting. -/
namespace Lexical.Pattern

/-- A part of a pattern. -/
structure Part where
  pattern : Pattern
  span : Span
  nesting : Nesting
  /-- Whether a repetition may follow. -/
  canRepeat : Bool
  deriving DecidableEq, Repr

/-- Rows of parts between bars, what comes last in front. -/
structure Branch where
  /-- Where the first row begins. -/
  first : Nat
  /-- The rows that are finished. -/
  rows : List Part
  /-- Where the last row begins. -/
  start : Nat
  parts : List Part
  deriving DecidableEq, Repr

namespace Branch

def begin (offset : Nat) : Branch := ⟨offset, [], offset, []⟩

def push (b : Branch) (p : Part) : Branch := { b with parts := p :: b.parts }

/-- Parts joined from the last one on, the earlier ones in front. -/
def joined (join : Pattern → Pattern → Pattern) (span : Span) : Part → List Part → Part
  | p, [] => p
  | p, ps =>
    ⟨ps.foldl (fun q p => join p.pattern q) p.pattern, span,
      span :: ps.foldl (fun n p => p.nesting.beside n) p.nesting, true⟩

/-- The last row, which ends at `stop`. -/
def row (b : Branch) (stop : Nat) : Part :=
  match b.parts with
  | [] => ⟨.empty, ⟨b.start, stop⟩, [], true⟩
  | p :: ps => joined .seq ⟨b.start, stop⟩ p ps

def whole (b : Branch) (stop : Nat) : Part := joined .alt ⟨b.first, stop⟩ (b.row stop) b.rows

/-- Ends a row at a bar. -/
def bar (b : Branch) (offset : Nat) : Branch :=
  { b with rows := b.row offset :: b.rows, start := offset + 1, parts := [] }

end Branch

/-- A group that is not closed yet, with what stands before it and the flags that hold behind it. -/
structure Group where
  opening : Span
  number : Option Nat
  before : Branch
  flags : Flags
  deriving DecidableEq, Repr

structure Reader where
  cursor : Cursor
  flags : Flags
  branch : Branch
  /-- The groups around, the innermost first. -/
  groups : List Group
  /-- How many groups have a number. -/
  numbered : Nat
  names : List (List Char × Span)
  /-- The first defect of meaning. -/
  flaw : Option Flaw
  deriving DecidableEq, Repr

namespace Reader

def ofText (text : String) : Reader := ⟨.ofText text, .standard, .begin 0, [], 0, [], none⟩

def setFlags (r : Reader) (f : Flags) : Reader :=
  { r with flags := f, cursor := { r.cursor with freeSpacing := f.freeSpacing } }

/-- Adds a part that ends at `behind`. -/
def push (r : Reader) (p : Pattern) (behind : Cursor) : Reader :=
  let part : Part := ⟨p, behind.since r.cursor.offset, [], true⟩
  { r with cursor := behind, branch := r.branch.push part }

def pushMeaning (r : Reader) (m : Meaning) (behind : Cursor) : Reader :=
  { r.push (.char m.set) behind with flaw := r.flaw.or m.flaw }

/-- Takes the signs in their order: those behind a dash clear their flags. -/
def flagged (f : Flags) (signs : List FlagSign) : Flags :=
  let letter (s : Bool × Flags) (sign : FlagSign) : Bool × Flags :=
    if sign.char = '-' then (false, s.2) else (s.1, s.2.put sign.char s.1)
  (signs.foldl letter (true, f)).2

def enter (r : Reader) (number : Option Nat) (behind : Cursor) (f : Flags) : Reader :=
  let group : Group := ⟨r.cursor.ahead, number, r.branch, r.flags⟩
  { r with
    cursor := behind
    branch := .begin behind.offset
    groups := group :: r.groups
    numbered := r.numbered + number.toList.length }.setFlags f

def readGroup (r : Reader) : Except Flaw Reader := do
  let (head, behind) ← GroupHead.read r.cursor
  match head with
  | .plain => return r.enter (some r.numbered) behind r.flags
  | .named name span =>
    match r.names.lookup name with
    | some earlier => throw ⟨.duplicateName, span, some earlier⟩
    | none =>
      let r := { r with names := (name, span) :: r.names }
      return r.enter (some r.numbered) behind r.flags
  | .flagged signs => return r.enter none behind (flagged r.flags signs)
  | .setting signs =>
    let part : Part := ⟨.empty, behind.since r.cursor.offset, [], false⟩
    let f := flagged r.flags signs
    return { r with cursor := behind, branch := r.branch.push part }.setFlags f

def leave (r : Reader) : Except Flaw Reader :=
  match r.groups with
  | [] => .error (Defect.unopenedGroup.within r.cursor.ahead)
  | g :: groups =>
    let body := r.branch.whole r.cursor.offset
    let behind := r.cursor.advance 1
    let span := behind.since g.opening.start
    let part : Part := ⟨.group g.number body.pattern, span, span :: body.nesting, true⟩
    .ok ({ r with
      cursor := behind
      branch := g.before.push part
      groups := groups }.setFlags g.flags)

/-- The parts of the row, the last of which a repetition repeats. -/
def repeated (r : Reader) : Except Flaw (Part × List Part) :=
  match r.branch.parts with
  | p :: ps =>
    if p.canRepeat then .ok (p, ps) else .error (Defect.nothingToRepeat.within r.cursor.here)
  | [] => .error (Defect.nothingToRepeat.within r.cursor.here)

/-- Puts `p` repeated behind `ps`; `marked` says that a question mark stands behind. -/
def repeats (r : Reader) (p : Part) (ps : List Part) (count : Count) (marked : Bool)
    (behind : Cursor) : Reader :=
  let span := behind.since p.span.start
  let body := .times p.pattern count.least count.most (marked != r.flags.lazyFirst)
  let part : Part := ⟨body, span, span :: p.nesting, true⟩
  { r with cursor := behind, branch := { r.branch with parts := part :: ps } }

def repeatBySign (r : Reader) (count : Count) : Except Flaw Reader := do
  let (p, ps) ← r.repeated
  let (marked, behind) := Count.readMark (r.cursor.advance 1)
  return r.repeats p ps count marked behind

def repeatByCount (r : Reader) : Except Flaw Reader := do
  let (p, ps) ← r.repeated
  let (count, marked, behind) ← Count.read r.cursor
  return r.repeats p ps count marked behind

def readClass (r : Reader) : Except Flaw Reader := do
  let (item, flaw, behind) ← Bracket.read r.flags r.cursor
  let part : Part := ⟨.char item.set, item.span, item.nesting, true⟩
  return { r with cursor := behind, branch := r.branch.push part, flaw := r.flaw.or flaw }

def readEscape (r : Reader) : Except Flaw Reader := do
  let (e, behind) ← Escape.read r.cursor
  let span := behind.since r.cursor.offset
  match e with
  | .literal x => return r.pushMeaning (r.flags.literal x false span) behind
  | .byte x => return r.pushMeaning (r.flags.literal x true span) behind
  | .charClass set negated => return r.pushMeaning (r.flags.escapedClass set negated span) behind
  | .property name => return r.pushMeaning (r.flags.property name span) behind
  | .look l => return r.push (.look (r.flags.look l)) behind

/-- Reads what begins with `x`. -/
def read (r : Reader) (x : Char) : Except Flaw Reader :=
  let behind := r.cursor.advance 1
  match x with
  | '(' => r.readGroup
  | ')' => r.leave
  | '|' => .ok { r with cursor := behind, branch := r.branch.bar r.cursor.offset }
  | '[' => r.readClass
  | '?' => r.repeatBySign ⟨0, some 1⟩
  | '*' => r.repeatBySign ⟨0, none⟩
  | '+' => r.repeatBySign ⟨1, none⟩
  | '\x7b' => r.repeatByCount
  | '\\' => r.readEscape
  | '.' => .ok (r.pushMeaning (r.flags.dot r.cursor.ahead) behind)
  | '^' => .ok (r.push (.look r.flags.lineStart) behind)
  | '$' => .ok (r.push (.look r.flags.lineEnd) behind)
  | x => .ok (r.pushMeaning (r.flags.literal x false r.cursor.ahead) behind)

/-- Reads to the end, each round at least one character. -/
def readAll : Nat → Reader → Except Flaw Reader
  | 0, r => .ok r
  | fuel + 1, r =>
    let r := { r with cursor := r.cursor.skipIdle }
    match r.cursor.char? with
    | none => .ok r
    | some x =>
      match r.read x with
      | .error flaw => .error flaw
      | .ok r => readAll fuel r

/-- The whole pattern. -/
def finish (r : Reader) : Except Flaw Pattern :=
  match r.groups with
  | g :: _ => .error (Defect.unclosedGroup.within g.opening)
  | [] =>
    let whole := r.branch.whole r.cursor.offset
    match whole.nesting.flaw?.or r.flaw with
    | some flaw => .error flaw
    | none => .ok whole.pattern

/-- The pattern that a text writes. -/
def pattern (text : String) : Except Flaw Pattern := do
  let r ← (ofText text).readAll (text.length + 1)
  r.finish

end Reader

end Lexical.Pattern
