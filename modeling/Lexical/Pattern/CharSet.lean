/-! Sets of characters, as patterns describe them. -/
namespace Lexical

/-- A set of characters by inclusive ranges of their code points, in order and with a gap before each
but the first. -/
structure CharSet where
  ranges : List (Nat × Nat)
  deriving DecidableEq, Repr

namespace CharSet

def contains (s : CharSet) (c : Char) : Bool :=
  s.ranges.any fun r => r.1 ≤ c.toNat && c.toNat ≤ r.2

def empty : CharSet := ⟨[]⟩

def isEmpty (s : CharSet) : Bool := s.ranges.isEmpty

/-- Joins ranges that touch or overlap; they come in the order of their beginnings. -/
def join : List (Nat × Nat) → List (Nat × Nat)
  | [] => []
  | r :: rest => go r rest
where
  go (r : Nat × Nat) : List (Nat × Nat) → List (Nat × Nat)
    | [] => [r]
    | s :: rest => if s.1 ≤ r.2 + 1 then go (r.1, max r.2 s.2) rest else r :: go s rest

/-- All that some range holds, whatever their order. -/
def ofRanges (ranges : List (Nat × Nat)) : CharSet :=
  ⟨join (ranges.mergeSort fun r s => r.1 ≤ s.1)⟩

def range (first last : Char) : CharSet := ⟨[(first.toNat, last.toNat)]⟩

def single (c : Char) : CharSet := range c c

/-- What ranges leave over from `n` on. -/
def gaps (n : Nat) : List (Nat × Nat) → List (Nat × Nat)
  | [] => if n ≤ 0x10ffff then [(n, 0x10ffff)] else []
  | (first, last) :: rest => if n < first then (n, first - 1) :: gaps (last + 1) rest
    else gaps (last + 1) rest

def compl (s : CharSet) : CharSet := ⟨gaps 0 s.ranges⟩

def union (a b : CharSet) : CharSet := ofRanges (a.ranges ++ b.ranges)

def inter (a b : CharSet) : CharSet := (a.compl.union b.compl).compl

def diff (a b : CharSet) : CharSet := a.inter b.compl

def symmDiff (a b : CharSet) : CharSet := (a.union b).diff (a.inter b)

def ofPairs (ranges : List (Char × Char)) : CharSet :=
  ofRanges (ranges.map fun r => (r.1.toNat, r.2.toNat))

def digit : CharSet := range '0' '9'

def space : CharSet := ofPairs [('\t', '\r'), (' ', ' ')]

def word : CharSet := ofPairs [('0', '9'), ('A', 'Z'), ('_', '_'), ('a', 'z')]

def upper : CharSet := range 'A' 'Z'

def lower : CharSet := range 'a' 'z'

/-- With each ASCII letter also the letter of the other case. -/
def anyCase (s : CharSet) : CharSet :=
  let toLower := (s.inter upper).ranges.map fun r => (r.1 + 32, r.2 + 32)
  let toUpper := (s.inter lower).ranges.map fun r => (r.1 - 32, r.2 - 32)
  ofRanges (s.ranges ++ toLower ++ toUpper)

/-- The ASCII classes that have a name. -/
def named? : String → Option CharSet
  | "alnum" => some (ofPairs [('0', '9'), ('A', 'Z'), ('a', 'z')])
  | "alpha" => some (ofPairs [('A', 'Z'), ('a', 'z')])
  | "ascii" => some (range '\x00' '\x7f')
  | "blank" => some (ofPairs [('\t', '\t'), (' ', ' ')])
  | "cntrl" => some (ofPairs [('\x00', '\x1f'), ('\x7f', '\x7f')])
  | "digit" => some digit
  | "graph" => some (range '!' '~')
  | "lower" => some lower
  | "print" => some (range ' ' '~')
  | "punct" => some (ofPairs [('!', '/'), (':', '@'), ('[', '\x60'), ('\x7b', '~')])
  | "space" => some space
  | "upper" => some upper
  | "word" => some word
  | "xdigit" => some (ofPairs [('0', '9'), ('A', 'F'), ('a', 'f')])
  | _ => none

/-- The only character of a set, if it has one written as such. -/
def only? (s : CharSet) : Option Char :=
  match s.ranges with
  | [(first, last)] =>
    if first = last ∧ first.isValidChar then some (Char.ofNat first) else none
  | _ => none

/-- Whether all characters are ASCII. -/
def isAscii (s : CharSet) : Bool := s.ranges.all (·.2 < 128)

end CharSet

end Lexical
