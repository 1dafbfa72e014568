import Lexical.Pattern.CharSet
/-! Patterns, and whether one occurs in a text.

A pattern leads from places of a text to places: those behind it, where it is met from one of the
first. It occurs if it leads anywhere from all the places together. -/
namespace Lexical

/-- A place in a text: the characters before and behind it, if there are any. -/
structure Gap where
  before : Option Char
  behind : Option Char
  deriving DecidableEq, Repr

/-- The places of a text, behind `before`. -/
def Gap.all (before : Option Char) : List Char → List Gap
  | [] => [⟨before, none⟩]
  | c :: cs => ⟨before, some c⟩ :: all (some c) cs

/-- What a pattern can ask of a place. Words are made of ASCII letters, digits and underscores. -/
inductive Look
  | textStart
  | textEnd
  /-- Lines end at line feeds, and with `crlf` at carriage returns too, a pair being one end. -/
  | lineStart (crlf : Bool)
  | lineEnd (crlf : Bool)
  | wordBoundary
  | noWordBoundary
  | wordStart
  | wordEnd
  /-- No word character before. -/
  | wordStartHalf
  /-- No word character behind. -/
  | wordEndHalf
  /-- Something about words beyond ASCII, which are not known. -/
  | unknown
  deriving DecidableEq, Repr

def Gap.inWordBefore (g : Gap) : Bool := g.before.any CharSet.word.contains

def Gap.inWordBehind (g : Gap) : Bool := g.behind.any CharSet.word.contains

def Look.holds (g : Gap) : Look → Bool
  | textStart => g.before.isNone
  | textEnd => g.behind.isNone
  | lineStart crlf =>
    g.before.isNone || g.before == some '\n' ||
      (crlf && g.before == some '\r' && g.behind != some '\n')
  | lineEnd false => g.behind.isNone || g.behind == some '\n'
  | lineEnd true =>
    g.behind.isNone || g.behind == some '\r' || (g.behind == some '\n' && g.before != some '\r')
  | wordBoundary => g.inWordBefore != g.inWordBehind
  | noWordBoundary => g.inWordBefore == g.inWordBehind
  | wordStart => !g.inWordBefore && g.inWordBehind
  | wordEnd => g.inWordBefore && !g.inWordBehind
  | wordStartHalf => !g.inWordBefore
  | wordEndHalf => !g.inWordBehind
  | unknown => false

inductive Pattern
  | empty
  | char (set : CharSet)
  | look (look : Look)
  /-- A part in parentheses, with a number if what it meets is to be kept. -/
  | group (number : Option Nat) (body : Pattern)
  | seq (first second : Pattern)
  | alt (left right : Pattern)
  /-- From `least` to `most` times, without a bound if there is no `most`. A lazy repetition rather
  takes fewer, which makes no difference to where it can be met. -/
  | times (body : Pattern) (least : Nat) (most : Option Nat) ( isLazy : Bool)
  deriving DecidableEq, Repr

/-- For each place of a text in turn, whether it is one of some. -/
abbrev Places := List Bool

namespace Places

/-- The places behind a character of `set`. -/
def past (gaps : List Gap) (set : CharSet) (s : Places) : Places :=
  false :: (s.zipWith (fun b g => b && g.behind.any set.contains) gaps).dropLast

/-- The places where `look` holds. -/
def keep (gaps : List Gap) (look : Look) (s : Places) : Places :=
  s.zipWith (fun b g => b && look.holds g) gaps

def union (s t : Places) : Places := s.zipWith (· || ·) t

/-- From `s` on `n` times. What a step does not change, no further step does. -/
def steps (step : Places → Places) : Nat → Places → Places
  | 0, s => s
  | n + 1, s =>
    let t := step s
    if t = s then s else steps step n t

/-- From `s` on up to `n` times. -/
def within (step : Places → Places) : Nat → Places → Places
  | 0, s => s
  | n + 1, s =>
    let t := s.union (step s)
    if t = s then s else within step n t

end Places

namespace Pattern

/-- The places behind the pattern, met from the places `s`. A repetition without a bound is at an
end when it reaches no new place, so it takes no more times than there are places. -/
def reach (gaps : List Gap) : Pattern → Places → Places
  | empty, s => s
  | char set, s => s.past gaps set
  | look l, s => s.keep gaps l
  | group _ p, s => p.reach gaps s
  | seq p q, s =>
    let t := p.reach gaps s
    if t.contains true then q.reach gaps t else t
  | alt p q, s => (p.reach gaps s).union (q.reach gaps s)
  | times p least most _, s =>
    let step := p.reach gaps
    (s.steps step least).within step (most.elim gaps.length (· - least))

def occursIn (p : Pattern) (text : String) : Bool :=
  let gaps := Gap.all none text.toList
  (p.reach gaps (gaps.map fun _ => true)).contains true

end Pattern

end Lexical
