import Lexical.Scanner.NextToken
/-! The items of a source, drawn one by one.

The stream ends for good with the first error or with the end of the source, whichever way either was
met; calls of `nextToken` go on after that. -/
namespace Lexical

/-- What one draw gives. -/
structure Draw where
  item : Option Item
  scanner : Scanner
  events : List Event

/-- What several draws give, each item with those before it. -/
structure Run where
  items : List Item
  scanner : Scanner
  events : List Event

namespace Scanner

/-- Draws the next item, if the stream has one. -/
def next (s : Scanner) : Draw :=
  if s.finished then ⟨none, s, []⟩
  else
    let call := s.nextToken
    ⟨call.outcome.item?, call.scanner, call.events⟩

theorem next_of_finished {s : Scanner} (h : s.finished = true) : s.next = ⟨none, s, []⟩ := by
  simp [next, h]

theorem next_of_open {s : Scanner} (h : s.finished = false) :
    s.next = ⟨s.nextToken.outcome.item?, s.nextToken.scanner, s.nextToken.events⟩ := by
  simp [next, h]

/-- Goes on with up to `n` draws after others gave `items` and `events`. -/
def takeAfter (items : Array Item) (events : Array Event) : Nat → Scanner → Run
  | 0, s => ⟨items.toList, s, events.toList⟩
  | n + 1, s =>
    match s.next with
    | ⟨none, s, new⟩ => ⟨items.toList, s, (events ++ new).toList⟩
    | ⟨some item, s, new⟩ => takeAfter (items.push item) (events ++ new) n s

/-- Draws up to `n` items, fewer if the stream ends. -/
def take (n : Nat) (s : Scanner) : Run := takeAfter #[] #[] n s

/-- Draws all the items that are left. Every item but the last takes a character from those that
remain, so there are no more draws than one beyond their number. -/
def rest (s : Scanner) : Run := s.take (s.remaining + 1)

theorem takeAfter_eq (n : Nat) (s : Scanner) (items : Array Item) (events : Array Event) :
    takeAfter items events n s =
      ⟨items.toList ++ (s.take n).items, (s.take n).scanner,
        events.toList ++ (s.take n).events⟩ := by
  induction n generalizing s items events with
  | zero => simp [take, takeAfter]
  | succ n ih =>
    unfold take takeAfter
    split
    · simp
    · rw [ih, ih _ (#[].push _)]
      simp

@[simp] theorem take_zero (s : Scanner) : s.take 0 = ⟨[], s, []⟩ := rfl

theorem take_succ (n : Nat) (s : Scanner) : s.take (n + 1) =
    match s.next with
    | ⟨none, t, new⟩ => ⟨[], t, new⟩
    | ⟨some item, t, new⟩ => ⟨item :: (t.take n).items, (t.take n).scanner,
        new ++ (t.take n).events⟩ := by
  unfold take
  rw [takeAfter]
  split
  · simp
  · rw [takeAfter_eq]
    simp [take]

end Scanner

/-- All the tokens, or the error that ends them. -/
def Run.tokens (r : Run) : Except ScanError (List Token) := r.items.mapM id

def tokenize (source : String) (file : Option String) : Except ScanError (List Token) :=
  (Scanner.ofString source file).rest.tokens

end Lexical
