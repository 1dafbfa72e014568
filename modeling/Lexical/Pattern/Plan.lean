import Lexical.Pattern.Basic
/-! Patterns in the form in which they are compiled.

Rows are flat and join their literals, alternatives are flat, become a set where they are single
characters, and share what all of them begin with. What can be met by no text is repeated once at
most. -/
namespace Lexical.Pattern

inductive Plan
  | empty
  | literal (text : List Char)
  | char (set : CharSet)
  | look (look : Look)
  | group (number : Nat) (body : Plan)
  | seq (first second : Plan)
  | alt (left right : Plan)
  | times (body : Plan) (least : Nat) (most : Option Nat) ( isLazy : Bool)
  deriving DecidableEq, Repr

namespace Plan

/-- The least number of bytes, unless some part has no text at all. -/
def minLength : Plan → Option Nat
  | empty | look _ => some 0
  | literal text => some (text.map (·.utf8Size)).sum
  | char set => set.ranges.head?.map fun r => (Char.ofNat r.1).utf8Size
  | group _ p => p.minLength
  | seq p q => do return (← p.minLength) + (← q.minLength)
  | alt p q => do return min (← p.minLength) (← q.minLength)
  | times p least _ _ => p.minLength.map (least * ·)

/-- The greatest number of bytes, if there is one. -/
def maxLength : Plan → Option Nat
  | empty | look _ => some 0
  | literal text => some (text.map (·.utf8Size)).sum
  | char set => set.ranges.getLast?.map fun r => (Char.ofNat r.2).utf8Size
  | group _ p => p.maxLength
  | seq p q => do return (← p.maxLength) + (← q.maxLength)
  | alt p q => do return max (← p.maxLength) (← q.maxLength)
  | times p _ most _ => do return (← most) * (← p.maxLength)

/-- Whether all that is asked of places is known. -/
def isKnown : Plan → Bool
  | empty | literal _ | char _ => true
  | look l => l != .unknown
  | group _ p | times p _ _ _ => p.isKnown
  | seq p q | alt p q => p.isKnown && q.isKnown

/-- Whether every text begins where `l` holds, as far as it is written there. -/
def beginsWith (l : Look) : Plan → Bool
  | empty | literal _ | char _ => false
  | look m => m == l
  | group _ p => p.beginsWith l
  | seq p q => p.beginsWith l || (p.maxLength == some 0 && q.beginsWith l)
  | alt p q => p.beginsWith l && q.beginsWith l
  | times p least _ _ => least != 0 && p.beginsWith l

def endsWith (l : Look) : Plan → Bool
  | empty | literal _ | char _ => false
  | look m => m == l
  | group _ p => p.endsWith l
  | seq p q => q.endsWith l || (q.maxLength == some 0 && p.endsWith l)
  | alt p q => p.endsWith l && q.endsWith l
  | times p least _ _ => least != 0 && p.endsWith l

/-- A set of one character is a literal. -/
def ofSet (set : CharSet) : Plan :=
  match set.only? with
  | some c => literal [c]
  | none => char set

/-- The row of both. -/
def beside : Plan → Plan → Plan
  | empty, q => q
  | p, empty => p
  | seq p q, r => seq p (q.beside r)
  | literal s, literal t => literal (s ++ t)
  | literal s, seq (literal t) q => seq (literal (s ++ t)) q
  | p, q => seq p q

def repeated (p : Plan) (least : Nat) (most : Option Nat) ( isLazy : Bool) : Plan :=
  let (least, most) := if p.maxLength = some 0
    then (min least 1, some (most.elim 1 (min · 1))) else (least, most)
  if most = some 0 then empty
  else if least = 1 ∧ most = some 1 then p
  else times p least most isLazy

/-- The parts of a row. -/
def parts : Plan → List Plan
  | seq p q => p :: q.parts
  | p => [p]

def alternatives : Plan → List Plan
  | alt p q => p :: q.alternatives
  | p => [p]

def ofParts (ps : List Plan) : Plan := ps.foldr beside empty

def ofAlternatives : List Plan → Plan
  | [] => char .empty
  | [p] => p
  | p :: ps => alt p (ofAlternatives ps)

def literal? : Plan → Option (List Char)
  | literal text => some text
  | _ => none

def char? : Plan → Option CharSet
  | char set => some set
  | _ => none

def row? : Plan → Option (List Plan)
  | seq p q => some (p :: q.parts)
  | _ => none

/-- The set of alternatives that are all literals of one character. -/
def singles? (ps : List Plan) : Option CharSet := do
  let texts ← ps.mapM literal?
  let chars ← texts.mapM fun
    | [c] => some c
    | _ => none
  return .ofPairs (chars.map fun c => (c, c))

/-- The set of alternatives that are all sets. -/
def sets? (ps : List Plan) : Option CharSet := do
  let sets ← ps.mapM char?
  return .ofRanges (sets.flatMap (·.ranges))

/-- What two rows begin with. -/
def common : List Plan → List Plan → List Plan
  | p :: ps, q :: qs => if p = q then p :: common ps qs else []
  | _, _ => []

/-- What all alternatives begin with, if they are rows and there is anything, and what is left of
each. -/
def shared? (ps : List Plan) : Option (List Plan × List (List Plan)) := do
  let rows ← ps.mapM row?
  let front := rows.tail.foldl common (rows.headD [])
  if front.isEmpty then none
  else return (front, rows.map (·.drop front.length))

/-- One of several. What is left of them where they share a beginning is shorter, so as many rounds as
there are parts are enough. -/
def choose : Nat → List Plan → Plan
  | 0, ps => ofAlternatives ps
  | fuel + 1, ps =>
    let ps := ps.flatMap alternatives
    match ps with
    | [] => char .empty
    | [p] => p
    | ps =>
      match (singles? ps).or (sets? ps) with
      | some set => ofSet set
      | none =>
        match shared? ps with
        | some (front, rows) => front.foldr beside (choose fuel (rows.map ofParts))
        | none => ofAlternatives ps

def choice : List Plan → Plan
  | [p] => p
  | ps => choose ((ps.map fun p => p.parts.length).foldr (· + ·) 0) ps

end Plan

/-- The plans of the alternatives. -/
def plans : Pattern → List Plan
  | empty => [.empty]
  | char set => [.ofSet set]
  | look l => [.look l]
  | group none p => [.choice p.plans]
  | group (some n) p => [.group n (.choice p.plans)]
  | seq p q => [(Plan.choice p.plans).beside (.choice q.plans)]
  | alt p q => p.plans ++ q.plans
  | times p least most isLazy => [(Plan.choice p.plans).repeated least most isLazy]

def plan (p : Pattern) : Plan := .choice p.plans

end Lexical.Pattern
