import Lexical.Outcome
import Lexical.Scanner.Automaton
import Lexical.Scanner.Basic
import Lexical.Scanner.Event
/-! One call of the scanner.

A call reads character by character, each turn of its loop making the move that the automaton calls
for, until a token or a fault is found or the source ends. It ends because every turn leaves fewer
characters to read, save the one that puts a point back, and that turn leaves the integer mode. -/
namespace Lexical

/-- What a call reports, the scanner after it, and what it tells the log. -/
structure Call where
  outcome : Outcome
  scanner : Scanner
  events : List Event
  deriving DecidableEq, Repr

/-- A call between two turns of its loop. -/
structure Turn where
  scanner : Scanner
  mode : Mode
  lexeme : Lexeme
  events : List Event
  deriving DecidableEq, Repr

inductive Step
  | again (turn : Turn)
  | done (call : Call)
  deriving DecidableEq, Repr

namespace Turn

def begin (s : Scanner) : Turn := ⟨s, .start, .empty, []⟩

/-- Does with the character `p`, which was just read, what the automaton says. -/
def use (t : Turn) (p : Placed) : Use → Turn
  | .skip => t
  | .keep => { t with lexeme := t.lexeme.push p.char }
  | .putBack => { t with scanner := t.scanner.unread p, events := t.events ++ [.putBack p] }

def emit (t : Turn) (kind : TokenKind) (position : Position) : Call :=
  let token : Token := ⟨kind, t.lexeme.text⟩
  ⟨.token token, t.scanner, t.events ++ [.found position token]⟩

def fail (t : Turn) (fault : Fault) (position : Position) : Call :=
  let error : ScanError := ⟨fault, position, t.lexeme.text⟩
  ⟨.failure error, t.scanner.finish, t.events ++ [.failed t.scanner.file error]⟩

/-- The source ends where no lexeme is under way, or it breaks one off. -/
def sourceEnded (t : Turn) : Call :=
  if t.mode.isTrivia then ⟨.endOfSource, t.scanner.finish, t.events⟩
  else t.fail .unexpectedEndOfInput t.scanner.position

/-- Makes a move with the character `p`, which was just read. -/
def move (t : Turn) (p : Placed) (m : Move) : Step :=
  match m.sequel with
  | .goOn mode => .again { t.use p m.use with mode := mode }
  | .emit kind => .done ((t.use p m.use).emit kind p.position)
  | .fail fault => .done ((t.use p m.use).fail fault p.position)

def step (t : Turn) : Step :=
  match t.scanner.advance with
  | none => .done t.sourceEnded
  | some (p, s) => { t with scanner := s }.move p (.ofMode t.lexeme p.char t.mode)

/-- What a turn uses up. -/
def budget (t : Turn) : Nat :=
  2 * t.scanner.remaining + if t.mode = .integer then 1 else 0

theorem budget_lt_of_again {t u : Turn} (h : t.step = .again u) : u.budget < t.budget := by
  unfold step at h
  split at h
  · cases h
  · next p s hs =>
    have less := Scanner.remaining_of_advance hs
    have slot := (Scanner.advance_eq_some hs).2.2
    unfold move at h
    split at h
    · next mode goes =>
      cases h
      cases used : (Move.ofMode t.lexeme p.char t.mode).use with
      | skip | keep => simp only [use, budget]; split <;> split <;> omega
      | putBack =>
        obtain ⟨was, becomes⟩ := Move.mode_of_putBack_goOn (Move.ext used goes)
        simp only [use, budget, was, becomes, Scanner.remaining_unread slot]
        simp
        omega
    · cases h
    · cases h

/-- Takes turns until the call is done. -/
def run (t : Turn) : Call :=
  match _taken : t.step with
  | .again u => u.run
  | .done call => call
termination_by t.budget
decreasing_by exact budget_lt_of_again _taken

theorem run_of_again {t u : Turn} (h : t.step = .again u) : t.run = u.run := by
  rw [run]; split <;> simp_all

theorem run_of_done {t : Turn} {call : Call} (h : t.step = .done call) : t.run = call := by
  rw [run]; split <;> simp_all

end Turn

/-! ## Progress -/

/-- Before a lexeme, the character that begins it is still to be read. -/
def Turn.owing (t : Turn) : Nat := if t.mode.isTrivia then 1 else 0

namespace Turn

theorem remaining_le_of_again {t u : Turn} (h : t.step = .again u) :
    u.scanner.remaining + t.owing ≤ t.scanner.remaining + u.owing := by
  unfold step at h
  split at h
  · cases h
  · next p s hs =>
    have less := Scanner.remaining_of_advance hs
    have slot := (Scanner.advance_eq_some hs).2.2
    unfold move at h
    split at h
    · next mode goes =>
      cases h
      cases used : (Move.ofMode t.lexeme p.char t.mode).use with
      | skip | keep => simp only [use, owing]; split <;> split <;> omega
      | putBack =>
        obtain ⟨was, becomes⟩ := Move.mode_of_putBack_goOn (Move.ext used goes)
        simp [use, owing, was, Mode.isTrivia, Scanner.remaining_unread slot]
        omega
    · cases h
    · cases h

theorem remaining_le_of_done {t : Turn} {call : Call} (h : t.step = .done call)
    (reports : call.outcome ≠ .endOfSource) :
    call.scanner.remaining + t.owing ≤ t.scanner.remaining := by
  unfold step at h
  split at h
  · cases h
    unfold sourceEnded at reports ⊢
    split
    · simp_all
    · next lexing => simp [fail, owing, lexing]
  · next p s hs =>
    have less := Scanner.remaining_of_advance hs
    have slot := (Scanner.advance_eq_some hs).2.2
    have owed : t.owing ≤ 1 := by unfold owing; split <;> omega
    unfold move at h
    split at h
    · cases h
    all_goals
      cases h
      cases used : (Move.ofMode t.lexeme p.char t.mode).use with
      | skip | keep => simp only [use, emit, fail, Scanner.remaining_finish]; omega
      | putBack =>
        have := Move.isTrivia_of_putBack used
        simp [use, emit, fail, owing, this, Scanner.remaining_unread slot]
        omega

theorem remaining_le_of_run {t : Turn} (reports : t.run.outcome ≠ .endOfSource) :
    t.run.scanner.remaining + t.owing ≤ t.scanner.remaining := by
  fun_induction run t with
  | case1 t u h ih =>
    have := remaining_le_of_again h
    have := ih reports
    omega
  | case2 t call h => exact remaining_le_of_done h reports

end Turn

/-- Scans the next token. After an error or the end it goes on from where the scanner is. -/
def Scanner.nextToken (s : Scanner) : Call := (Turn.begin s).run

/-- A token or an error takes at least one character. -/
theorem Scanner.remaining_nextToken_lt {s : Scanner}
    (reports : s.nextToken.outcome ≠ .endOfSource) :
    s.nextToken.scanner.remaining < s.remaining :=
  Turn.remaining_le_of_run reports

end Lexical
