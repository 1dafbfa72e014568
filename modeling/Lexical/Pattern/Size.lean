import Lexical.Pattern.Plan
import Lexical.Text.Utf8
/-! The memory that a compiled pattern takes.

A pattern is compiled to an automaton that reads bytes, once to read a text forward and once to read
it backward. A state takes 32 bytes; a state that leads on by several bytes takes 8 more for each
range of them, and one that leads to several states without reading 4 more for each. -/
namespace Lexical.Pattern

inductive Direction
  | forward
  | backward
  deriving DecidableEq, Repr

namespace Size

def state : Nat := 32

/-- A state that reads a byte out of so many ranges. -/
def reading (ranges : Nat) : Nat := state + 8 * ranges

/-- A state that leads to so many others. -/
def branching (ways : Nat) : Nat := state + 4 * ways

/-- Words by what they begin with, where neighbours begin alike. -/
def heads {α : Type} [DecidableEq α] : List (List α) → List (α × List (List α))
  | [] => []
  | [] :: words => heads words
  | (x :: word) :: words =>
    match heads words with
    | [] => [(x, [word])]
    | (y, tails) :: rest =>
      if x = y then (y, word :: tails) :: rest else (x, [word]) :: (y, tails) :: rest

/-- The words themselves, what is left of those that begin alike, and so on to a depth. -/
def suffixes {α : Type} [DecidableEq α] : Nat → List (List α) → List (List (List α))
  | 0, _ => []
  | depth + 1, words =>
    if words.all (·.isEmpty) then []
    else words :: (heads words).flatMap fun g => suffixes depth g.2

/-- A set of characters. Forward, a state stands for all places with the same rest. Backward, one
stands for all with the same beginning, and the last bytes are told apart without reading. -/
def set (d : Direction) (s : CharSet) : Nat :=
  if s.isAscii then reading s.ranges.length + state
  else
    let words := s.ranges.flatMap fun r => Text.byteRanges r.1 r.2
    match d with
    | .forward =>
      let rests := (suffixes 4 words).eraseDups
      state + (rests.map fun rest => reading (heads rest).length).foldr (· + ·) 0
    | .backward =>
      let fronts := words.flatMap fun w => (List.range w.length).map fun n => w.take (n + 1)
      branching words.length + state + state * fronts.eraseDups.length

/-- The words up to each empty one, and those behind the last. -/
def chunks {α : Type} (words : List (List α)) : List (List (List α)) := words.splitOnP (·.isEmpty)

/-- Words by what they begin with, wherever they stand. -/
def tails {α : Type} [DecidableEq α] (words : List (List α)) : List (List (List α)) :=
  let firsts := (words.filterMap List.head?).eraseDups
  firsts.map fun x => words.filterMap fun
    | y :: word => if x = y then some word else none
    | [] => none

/-- A tree of words. A word that ends inside the tree parts those before it from those behind it; a
second one at the very beginning makes no difference. -/
def words {α : Type} [DecidableEq α] : Nat → List (List α) → Nat
  | 0, _ => 0
  | depth + 1, ws =>
    if ws.all (·.isEmpty) then 0
    else
      let behind := ws.dropWhile (·.isEmpty)
      let parted := chunks (if behind.length < ws.length then [] :: behind else ws)
      let groups := (parted.filter (!·.isEmpty)).map tails
      let ways := groups.length + (parted.length - 1)
      let reads := groups.map fun g => if g.length = 1 then state else reading g.length
      branching ways + reads.sum + (groups.flatten.map (words depth)).sum

end Size

namespace Plan

/-- Literals as one tree. -/
def literalsSize (d : Direction) (texts : List (List Char)) : Nat :=
  let bytes := texts.map fun text => text.flatMap fun c => Text.utf8 c.toNat
  let ws := match d with
    | .forward => bytes
    | .backward => bytes.map List.reverse
  Size.state + Size.words ((ws.map List.length).foldl max 0 + 1) ws

/-- The memory of a part. `chained` says that it is one of several alternatives or the rest of them,
which then need no states of their own to be chosen from. -/
def sizeOf (d : Direction) ( chained : Bool) : Plan → Nat
  | empty | look _ => Size.state
  | literal text => Size.state * (text.map (·.utf8Size)).sum
  | char set => Size.set d set
  | group _ p => p.sizeOf d false + if d = .forward then 2 * Size.state else 0
  | seq p q => p.sizeOf d false + q.sizeOf d false
  | alt p q =>
    let ps := p :: q.alternatives
    match if chained then none else ps.mapM literal? with
    | some texts => literalsSize d texts
    | none => (if chained then 0 else Size.branching ps.length + Size.state) +
        (p.sizeOf d false + q.sizeOf d true)
  | times p least most _ =>
    let body := p.sizeOf d false
    let choices := Size.branching 2
    match least, most with
    | 0, some 1 => choices + Size.state + body
    | 0, none =>
      if p.minLength.any (0 < ·) then choices + body else 2 * choices + Size.state + body
    | least, none => least * body + choices
    | least, some most =>
      if least = most then least * body
      else (if least = 0 then Size.state else least * body) + Size.state +
        (most - least) * (choices + body)

/-- The memory of the whole. Unless every text is met at one end only, what stands before it is read
first; at the end is a state that accepts, and forward two keep where the text lies. -/
def size (d : Direction) (p : Plan) : Nat :=
  let anchored := match d with
    | .forward => p.beginsWith .textStart
    | .backward => p.endsWith .textEnd
  (if anchored then Size.state else Size.branching 2 + Size.state + Size.reading 1) +
    p.sizeOf d false + Size.state + if d = .forward then 2 * Size.state else 0

/-- The most memory that a pattern may take. -/
def limit : Nat := 10485760

end Plan

end Lexical.Pattern
