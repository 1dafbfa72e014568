import Lexical.Proofs.Rewriting
import Lexical.Proofs.Soundness

/-! The stages of a call.

Between two turns of its loop a call stands at one of five stages. The stage says what was read for
the lexeme under way, where in the source that is, what the slot holds and what the log was told.

* `Mode.Begun`: what a lexeme looks like in each mode, once it has begun;
* `Move.of_goOn`, `Move.of_start_goOn`: the moves that go on from there;
* `Stage.of_again`: a turn that goes on leads from stage to stage, so `TurnOf.stage` has all turns
  of all calls. -/
namespace Lexical

open Direct (takeWhile_run dropWhile_run)
open Grammar
open Scanner (Clear Between)

variable {source : String} {file : Option String} {s : Scanner} {t u : Turn} {mode next : Mode}
  {use : Use} {read ahead before gap body cs rest whole part : List Char} {c : Char}

/-! ## Points behind integers -/

/-- A point right behind the digits that `cs` begins with is put back and read again. `before` is
the text before `cs`. -/
def rereadPoint (before cs : List Char) : List Event :=
  match cs.takeWhile isDigit, cs.dropWhile isDigit with
  | _ :: _, '.' :: _ => [.putBack ⟨'.', .behind (before ++ cs.takeWhile isDigit)⟩]
  | _, _ => []

theorem rereadPoint_of_point (is : IsInteger cs) (rest : List Char) :
    rereadPoint before (cs ++ '.' :: rest) = [.putBack ⟨'.', .behind (before ++ cs)⟩] := by
  have stop : ∀ d ∈ ('.' :: rest).head?, isDigit d = false := by simp; decide
  unfold rereadPoint
  rw [takeWhile_run is.2 stop, dropWhile_run is.2 stop]
  cases cs with
  | nil => exact absurd rfl is.1
  | cons c cs => rfl

/-- No point stands behind the digits, if there are any. -/
theorem rereadPoint_eq_nil (inside : ∀ d ∈ cs, isDigit d = true)
    (stop : ∀ d ∈ rest.head?, isDigit d = false) (noPoint : cs ≠ [] → rest.head? ≠ some '.') :
    rereadPoint before (cs ++ rest) = [] := by
  unfold rereadPoint
  rw [takeWhile_run inside stop, dropWhile_run inside stop]
  cases cs with
  | nil => rfl
  | cons c cs =>
    have other := noPoint (by simp)
    split
    · simp_all
    · rfl

theorem rereadPoint_singleton (before : List Char) (c : Char) : rereadPoint before [c] = [] := by
  unfold rereadPoint
  cases digit : isDigit c <;> simp [digit]

theorem rereadPoint_of_integer (is : IsInteger cs) : rereadPoint before cs = [] := by
  have none : rereadPoint before (cs ++ []) = [] := rereadPoint_eq_nil is.2 (by simp) (by simp)
  rwa [List.append_nil] at none

/-! ## Lexemes under way -/

/-- What a lexeme looks like in a mode for which it was begun. -/
inductive Mode.Begun : Mode → List Char → Prop
  | word {cs : List Char} (is : IsWord cs) : Begun .word cs
  | equals : Begun .equals ['=']
  | comparison {c : Char} (is : c = '<' ∨ c = '>' ∨ c = '!') : Begun .comparison [c]
  | integer {cs : List Char} (is : IsInteger cs) : Begun .integer cs
  | fraction {whole part : List Char} (before : ∀ c ∈ whole, isDigit c = true)
      (behind : ∀ c ∈ part, isDigit c = true) : Begun .fraction (whole ++ '.' :: part)

theorem Grammar.IsWord.append (is : IsWord cs) (part : isWordPart c = true) :
    IsWord (cs ++ [c]) := by
  obtain ⟨d, rest, rfl, first, parts⟩ := is
  refine ⟨d, rest ++ [c], rfl, first, ?_⟩
  intro e mem
  rcases List.mem_append.mp mem with mem | mem
  · exact parts e mem
  · cases List.mem_singleton.mp mem
    exact part

/-- The end of the source would break it off. -/
theorem Mode.Begun.unended (h : mode.Begun cs) : Unended cs := by
  cases h with
  | word is => exact .word is
  | equals => exact .operator rfl
  | comparison is => exact .operator (by rcases is with rfl | rfl | rfl <;> rfl)
  | integer is => exact .integer is
  | fraction before behind => exact .fraction before behind

theorem Mode.Begun.ne_nil (h : mode.Begun cs) : cs ≠ [] :=
  (Diagnosis.unexpectedEndOfInput h.unended).ne_nil

theorem Mode.Begun.not_isTrivia (h : mode.Begun cs) : mode.isTrivia = false := by
  cases h <;> rfl

/-- What a lexeme that has begun tells of its point does not change any more, unless a point or a
digit follows an integer. -/
theorem Mode.Begun.rereadPoint_append (h : mode.Begun cs)
    (stop : mode = .integer → ∀ c ∈ rest.head?, isDigit c = false ∧ c ≠ '.') :
    rereadPoint before (cs ++ rest) = rereadPoint before cs := by
  have plain {cs : List Char} (noDigit : ∀ c ∈ cs.head?, isDigit c = false) :
      rereadPoint before ([] ++ cs) = [] := rereadPoint_eq_nil (by simp) noDigit (by simp)
  cases h with
  | word is =>
    obtain ⟨c, cs, rfl, first, -⟩ := is
    have noDigit : isDigit c = false := by
      rcases Bool.or_eq_true_iff.mp first with h | h
      · exact CharClass.isDigit_of_isLetter h
      · exact CharClass.test_of_other (k := .underscore) (l := .digit) h (by simp) (by simp)
          (by simp)
    exact (plain (by simpa using noDigit)).trans (plain (by simpa using noDigit)).symm
  | equals => rfl
  | comparison is => rcases is with rfl | rfl | rfl <;> rfl
  | integer is =>
    rw [rereadPoint_of_integer is]
    refine rereadPoint_eq_nil is.2 (fun c mem => (stop rfl c mem).1) ?_
    intro _ point
    exact (stop rfl _ point).2 rfl
  | @fraction whole part digits _ =>
    by_cases empty : whole = []
    · rw [empty]
      exact (plain (by simp; decide)).trans (plain (by simp; decide)).symm
    · rw [List.append_assoc, List.cons_append, rereadPoint_of_point ⟨empty, digits⟩,
        rereadPoint_of_point ⟨empty, digits⟩]

/-- A lexeme under way grows in its mode, unless a point is met behind an integer. -/
theorem Mode.Begun.of_goOn (h : mode.Begun cs)
    (m : Move.ofMode (.ofChars cs) c mode = ⟨use, .goOn next⟩) :
    (use = .keep ∧ next.Begun (cs ++ [c]) ∧
      ∀ before, rereadPoint before (cs ++ [c]) = rereadPoint before cs) ∨
    (use = .putBack ∧ next = .fraction ∧ c = '.' ∧ IsInteger cs) := by
  cases h with
  | word is =>
    simp only [Move.ofMode, Move.word] at m
    split at m
    · next part =>
      cases m
      refine .inl ⟨rfl, .word (is.append part), fun before => ?_⟩
      exact (Begun.word is).rereadPoint_append (by simp)
    · split at m <;> cases m
  | equals => simp only [Move.ofMode, Move.equals] at m; split at m <;> cases m
  | comparison => simp only [Move.ofMode, Move.comparison] at m; split at m <;> cases m
  | integer is =>
    simp only [Move.ofMode, Move.integer] at m
    split at m
    · next digit =>
      cases m
      have longer : IsInteger (cs ++ [c]) :=
        ⟨by simp, List.forall_mem_append.mpr ⟨is.2, by simpa using digit⟩⟩
      refine .inl ⟨rfl, .integer longer, fun before => ?_⟩
      rw [rereadPoint_of_integer is, rereadPoint_of_integer longer]
    · split at m
      · next point =>
        cases m
        exact .inr ⟨rfl, rfl, beq_iff_eq.mp point, is⟩
      · split at m <;> cases m
  | @fraction whole part digits behind =>
    have points := Lexeme.points_ofChars_fraction digits behind
    simp only [Move.ofMode, Move.fraction, points] at m
    split at m
    · next digit =>
      cases m
      have more : ∀ d ∈ part ++ [c], isDigit d = true :=
        List.forall_mem_append.mpr ⟨behind, by simpa using digit⟩
      have begun := Begun.fraction digits behind
      refine .inl ⟨rfl, ?_, fun before => begun.rereadPoint_append (by simp)⟩
      rw [List.append_assoc, List.cons_append]
      exact .fraction digits more
    · split at m
      · cases m
      · split at m <;> cases m

/-- Before a lexeme a character is trivia, or begins a comment or a lexeme. -/
theorem Move.of_start_goOn (m : Move.start c = ⟨use, .goOn next⟩) :
    (use = .skip ∧ next = .start ∧ isWhitespace c = true) ∨
    (use = .skip ∧ next = .comment ∧ c = '#') ∨ (use = .keep ∧ next.Begun [c]) := by
  have passes := CharClass.test_ofChar c
  unfold Move.start at m
  cases k : CharClass.ofChar c <;> simp only [k, CharClass.test] at passes <;> rw [k] at m <;>
    cases m
  case whitespace => exact .inl ⟨rfl, rfl, passes⟩
  case commentStart => exact .inr (.inl ⟨rfl, rfl, beq_iff_eq.mp passes⟩)
  case letter | underscore =>
    exact .inr (.inr ⟨rfl, .word ⟨c, [], rfl, by simp [passes], by simp⟩⟩)
  case digit => exact .inr (.inr ⟨rfl, .integer ⟨by simp, by simpa using passes⟩⟩)
  case point =>
    cases beq_iff_eq.mp passes
    have alone : Mode.fraction.Begun ([] ++ '.' :: []) := .fraction (by simp) (by simp)
    exact .inr (.inr ⟨rfl, alone⟩)
  case assignment =>
    cases beq_iff_eq.mp passes
    exact .inr (.inr ⟨rfl, .equals⟩)
  case relOperator =>
    have is : c = '<' ∨ c = '>' ∨ c = '!' := by
      simp only [isRelOperator, Bool.or_eq_true, beq_iff_eq] at passes
      rcases passes with ((rfl | is) | is) | is
      · cases k
      · exact .inr (.inl is)
      · exact .inl is
      · exact .inr (.inr is)
    exact .inr (.inr ⟨rfl, .comparison is⟩)

/-! ## Stages -/

/-- Where a call that began between `read` and `ahead` stands at the beginning of a turn, with what
it has told the log. In the first turn the slot is as the call before has left it, so that is no
stage. -/
inductive Stage (read ahead : List Char) : Turn → Prop
  | blank {s : Scanner} {gap rest : List Char} (split : ahead = gap ++ rest) (blank : Trivia gap)
      (h : s.Clear (read ++ gap) rest) : Stage read ahead ⟨s, .start, .empty, []⟩
  | comment {s : Scanner} {gap body rest : List Char} (split : ahead = gap ++ (body ++ rest))
      (blank : Trivia gap) (is : IsComment body) (h : s.Clear (read ++ gap ++ body) rest) :
      Stage read ahead ⟨s, .comment, .empty, []⟩
  | lexeme {s : Scanner} {mode : Mode} {gap cs rest : List Char}
      (split : ahead = gap ++ (cs ++ rest)) (blank : Trivia gap) (begun : mode.Begun cs)
      (h : s.Clear (read ++ gap ++ cs) rest) :
      Stage read ahead ⟨s, mode, .ofChars cs, rereadPoint (read ++ gap) cs⟩
  /-- The point behind an integer was put back and is to be read again. -/
  | point {s : Scanner} {gap cs rest : List Char} (split : ahead = gap ++ (cs ++ '.' :: rest))
      (blank : Trivia gap) (is : IsInteger cs) (h : s.Clear (read ++ gap ++ cs ++ ['.']) rest) :
      Stage read ahead ⟨s.unread ⟨'.', .behind (read ++ gap ++ cs)⟩, .fraction, .ofChars cs,
        [.putBack ⟨'.', .behind (read ++ gap ++ cs)⟩]⟩

/-- What a turn does between `before` and what is ahead: the source ends, or the automaton says what
becomes of the next character. -/
inductive Turn.Steps (t : Turn) (before : List Char) : List Char → Step → Prop
  | ended : Steps t before [] (.done t.sourceEnded)
  | goOn {c : Char} {more : List Char} {v : Scanner} {use : Use} {next : Mode}
      (h : v.Clear (before ++ [c]) more) (m : Move.ofMode t.lexeme c t.mode = ⟨use, .goOn next⟩) :
      Steps t before (c :: more)
        (.again { { t with scanner := v }.use ⟨c, .behind before⟩ use with mode := next })
  | emit {c : Char} {more : List Char} {v : Scanner} {use : Use} {kind : TokenKind}
      (h : v.Clear (before ++ [c]) more) (m : Move.ofMode t.lexeme c t.mode = ⟨use, .emit kind⟩) :
      Steps t before (c :: more)
        (.done (({ t with scanner := v }.use ⟨c, .behind before⟩ use).emit kind (.behind before)))
  | fail {c : Char} {more : List Char} {v : Scanner} {use : Use} {fault : Fault}
      (h : v.Clear (before ++ [c]) more) (same : v.file = t.scanner.file)
      (m : Move.ofMode t.lexeme c t.mode = ⟨use, .fail fault⟩) :
      Steps t before (c :: more)
        (.done (({ t with scanner := v }.use ⟨c, .behind before⟩ use).fail fault (.behind before)))

theorem Turn.steps {step : Step} (h : t.scanner.Between before rest) (taken : t.step = step) :
    t.Steps before rest step := by
  subst taken
  cases rest with
  | nil =>
    simp only [Turn.step, h.advance_nil]
    exact .ended
  | cons c more =>
    obtain ⟨v, hv, clear⟩ := h.advance
    simp only [Turn.step, hv, move]
    split
    · next next sequel => exact .goOn clear (Move.ext rfl sequel)
    · next kind sequel => exact .emit clear (Move.ext rfl sequel)
    · next fault sequel =>
      exact .fail clear (Scanner.frame_of_advance hv).1 (Move.ext rfl sequel)

namespace Stage

theorem of_steps_start (split : ahead = gap ++ rest) (blank : Trivia gap)
    (steps : (Turn.mk s .start .empty []).Steps (read ++ gap) rest (.again u)) :
    Stage read ahead u := by
  cases steps with
  | @goOn c more v use next clear m =>
    rcases Move.of_start_goOn m with ⟨rfl, rfl, is⟩ | ⟨rfl, rfl, rfl⟩ | ⟨rfl, begun⟩
    · rw [List.append_assoc] at clear
      exact .blank (by simpa using split) (blank.append (.blank is .nil)) clear
    · have starts : IsComment ['#'] := ⟨[], rfl, by simp⟩
      exact .comment split blank starts clear
    · have begins : Lexeme.empty.push c = .ofChars [c] := Lexeme.push_ofChars [] c
      simp only [Turn.use, begins]
      rw [← rereadPoint_singleton (read ++ gap) c]
      exact .lexeme split blank begun clear

/-- At the end of its line a comment is over. -/
theorem of_steps_comment (split : ahead = gap ++ (body ++ rest)) (blank : Trivia gap)
    (is : IsComment body)
    (steps : (Turn.mk s .comment .empty []).Steps (read ++ gap ++ body) rest (.again u)) :
    Stage read ahead u := by
  cases steps with
  | @goOn c more v use next clear m =>
    simp only [Move.ofMode, Move.comment] at m
    split at m
    · next ends =>
      cases m
      have closed : Trivia (gap ++ (body ++ [c])) := blank.append (.comment is ends .nil)
      simp only [List.append_assoc] at clear
      exact .blank (by simpa using split) closed clear
    · next inside =>
      cases m
      obtain ⟨inner, rfl, before⟩ := is
      have longer : IsComment ('#' :: inner ++ [c]) :=
        ⟨inner ++ [c], rfl, List.forall_mem_append.mpr ⟨before, by simpa using inside⟩⟩
      rw [List.append_assoc] at clear
      exact .comment (by simpa using split) blank longer clear

theorem of_steps_lexeme (split : ahead = gap ++ (cs ++ rest)) (blank : Trivia gap)
    (begun : mode.Begun cs) (steps : (Turn.mk s mode (.ofChars cs)
      (rereadPoint (read ++ gap) cs)).Steps (read ++ gap ++ cs) rest (.again u)) :
    Stage read ahead u := by
  cases steps with
  | goOn clear m =>
    rcases begun.of_goOn m with ⟨rfl, grown, same⟩ | ⟨rfl, rfl, rfl, is⟩
    · simp only [Turn.use, Lexeme.push_ofChars, ← same (read ++ gap)]
      exact .lexeme (by simpa using split) blank grown (by simpa using clear)
    · simp only [Turn.use, rereadPoint_of_integer is, List.nil_append]
      exact .point split blank is clear

/-- The point joins the integer, whose reading goes on as that of a fraction. -/
theorem of_steps_point (split : ahead = gap ++ (cs ++ '.' :: rest)) (blank : Trivia gap)
    (is : IsInteger cs) (steps : (Turn.mk s .fraction (.ofChars cs)
      [.putBack ⟨'.', .behind (read ++ gap ++ cs)⟩]).Steps (read ++ gap ++ cs) ('.' :: rest)
        (.again u)) : Stage read ahead u := by
  cases steps with
  | goOn clear m =>
    rw [Move.ofMode_point is.2] at m
    cases m
    simp only [Turn.use, Lexeme.push_ofChars]
    rw [← rereadPoint_of_point is []]
    have begun : Mode.fraction.Begun (cs ++ ['.']) := .fraction is.2 (by simp)
    exact .lexeme (by simpa using split) blank begun (by simpa using clear)

theorem of_again (h : Stage read ahead t) (goes : t.step = .again u) : Stage read ahead u := by
  cases h with
  | blank split blank h => exact of_steps_start split blank (Turn.steps (.clear h) goes)
  | comment split blank is h => exact of_steps_comment split blank is (Turn.steps (.clear h) goes)
  | lexeme split blank begun h =>
    exact of_steps_lexeme split blank begun (Turn.steps (.clear h) goes)
  | point split blank is h => exact of_steps_point split blank is (Turn.steps (.putBack h) goes)

end Stage

/-- Every turn of a call but the first is at a stage. -/
theorem TurnOf.stage (h : TurnOf s t) (start : s.Between read ahead) :
    t = .begin s ∨ Stage read ahead t := by
  induction h with
  | begin => exact .inl rfl
  | again _ goes ih =>
    rcases ih with rfl | stage
    · have first : s.Between (read ++ []) ahead := by simpa using start
      exact .inr (.of_steps_start rfl .nil (Turn.steps first goes))
    · exact .inr (stage.of_again goes)

/-! ## What a turn keeps of its lexeme -/

/-- Only a fraction has a point in it, and it has one. -/
theorem Mode.Begun.count_point (h : mode.Begun cs) :
    cs.count '.' = if mode = .fraction then 1 else 0 := by
  cases h with
  | word is =>
    apply List.count_eq_zero.mpr
    exact fun mem => absurd (is.parts _ mem) (by decide)
  | equals => rfl
  | comparison is => rcases is with rfl | rfl | rfl <;> rfl
  | integer is => exact count_point_of_digits is.2
  | fraction digits behind =>
    simp [List.count_append, count_point_of_digits digits, count_point_of_digits behind]

/-- What a mode says of the lexeme under way, of the points that were counted and of the slot. -/
def Mode.Holds (cs : List Char) (points : UInt32) (slot : Option Placed) : Mode → Prop
  | .start | .comment => cs = [] ∧ points = 0
  | .word => IsWord cs ∧ points = 0
  | .equals => cs = ['='] ∧ points = 0
  | .comparison => (cs = ['<'] ∨ cs = ['>'] ∨ cs = ['!']) ∧ points = 0
  | .integer => IsInteger cs ∧ points = 0
  | .fraction =>
    (IsInteger cs ∧ points = 0 ∧ slot.map Placed.char = some '.') ∨
    ((∃ whole part, cs = whole ++ '.' :: part ∧ (∀ c ∈ whole, isDigit c = true) ∧
      ∀ c ∈ part, isDigit c = true) ∧ points = 1 ∧ slot = none)

/-- The lexeme of the turn is what was read of `text` last. -/
structure Turn.KeepsLexeme (text : List Char) (t : Turn) : Prop where
  mode : t.mode.Holds t.lexeme.text.toList t.lexeme.points t.scanner.pending
  begun : t.mode.isTrivia = false → t.lexeme.text.toList ≠ []
  last : t.lexeme.text.toList <:+ text.take t.scanner.offset
  oneLine : '\n' ∉ t.lexeme.text.toList
  points : t.lexeme.points.toNat = t.lexeme.text.toList.count '.'

theorem Mode.Begun.holds (h : mode.Begun cs) :
    mode.Holds cs (Lexeme.ofChars cs).points none := by
  have points : (Lexeme.ofChars cs).points = if mode = .fraction then 1 else 0 := by
    rw [Lexeme.ofChars, h.count_point]
    split <;> rfl
  rw [points]
  cases h with
  | word is => exact ⟨is, rfl⟩
  | equals => exact ⟨rfl, rfl⟩
  | comparison is => exact ⟨by simpa using is, rfl⟩
  | integer is => exact ⟨is, rfl⟩
  | fraction digits behind => exact .inr ⟨⟨_, _, rfl, digits, behind⟩, rfl, rfl⟩

namespace Turn

/-- Before a lexeme nothing is kept. -/
theorem keepsLexeme_of_trivia (trivia : mode = .start ∨ mode = .comment) (text : List Char) :
    (Turn.mk s mode .empty []).KeepsLexeme text where
  mode := by rcases trivia with rfl | rfl <;> exact ⟨rfl, rfl⟩
  begun := by rcases trivia with rfl | rfl <;> simp [Mode.isTrivia]
  last := List.nil_suffix
  oneLine := by simp [Lexeme.empty]
  points := rfl

/-- The lexeme has the form of the mode, or of another one that the mode has just taken over. -/
theorem keepsLexeme_of_begun {form : Mode} {text : List Char} {events : List Event}
    (split : text = before ++ cs ++ rest) (begun : form.Begun cs)
    (h : s.Between (before ++ cs) rest)
    (holds : mode.Holds cs (Lexeme.ofChars cs).points s.pending) :
    (Turn.mk s mode (.ofChars cs) events).KeepsLexeme text := by
  have chars : (Lexeme.ofChars cs).text.toList = cs := String.toList_ofList
  constructor
  · rwa [chars]
  · rw [chars]
    exact fun _ => begun.ne_nil
  · rw [chars, split, h.take_offset]
    exact List.suffix_append before cs
  · rw [chars]
    exact fun feed => absurd (begun.unended.no_separator _ feed) (by decide)
  · have few : cs.count '.' < UInt32.size := by
      rw [begun.count_point]
      split <;> decide
    rw [chars]
    exact UInt32.toNat_ofNat_of_lt' few

end Turn

theorem Stage.keepsLexeme (h : Stage read ahead t) : t.KeepsLexeme (read ++ ahead) := by
  cases h with
  | blank => exact Turn.keepsLexeme_of_trivia (.inl rfl) _
  | comment => exact Turn.keepsLexeme_of_trivia (.inr rfl) _
  | lexeme split blank begun h =>
    refine Turn.keepsLexeme_of_begun (by simp [split]) begun (.clear h) ?_
    rw [h.pending]
    exact begun.holds
  | @point s gap cs rest split blank is h =>
    have points : (Lexeme.ofChars cs).points = 0 := (Mode.Begun.integer is).holds.2
    refine Turn.keepsLexeme_of_begun (by simp [split]) (.integer is) (.putBack h) ?_
    exact .inl ⟨is, points, rfl⟩

/-- Behind the first turn the slot is full only if a point is to be read again. -/
theorem Stage.pending_cases (h : Stage read ahead t) : t.scanner.pending = none ∨
    t.mode = .fraction ∧ '.' ∉ t.lexeme.text.toList := by
  cases h with
  | blank _ _ h | comment _ _ _ h | lexeme _ _ _ h => exact .inl h.pending
  | @point s gap cs rest _ _ is _ =>
    have chars : (Lexeme.ofChars cs).text.toList = cs := String.toList_ofList
    refine .inr ⟨rfl, ?_⟩
    rw [chars]
    exact List.count_eq_zero.mp (count_point_of_digits is.2)

/-! ## The tests of points -/

/-- A point too many is found by reading a point in a fraction that has as many as it may have. -/
theorem Move.sequel_eq_tooManyPoints_iff {l : Lexeme} :
    (ofMode l c mode).sequel = .fail (.malformedNumber .tooManyPoints) ↔
      mode = .fraction ∧ c = '.' ∧ maxPoints < l.points + 1 := by
  cases mode with
  | fraction =>
    simp only [ofMode, fraction]
    have point : isPoint c = true ↔ c = '.' := beq_iff_eq
    have other : isDigit '.' = false := by decide
    grind
  | start | comment | word | equals | comparison | integer =>
    simp only [ofMode, start, comment, word, equals, comparison, integer]
    grind

/-- The turn is the last of its call, which reports `fault`. -/
def Turn.FailsWith (t : Turn) (fault : Fault) : Prop :=
  ∃ e, t.step = .done t.run ∧ t.run.outcome = .failure e ∧ e.fault = fault

namespace Turn

variable {p : Placed} {v : Scanner} {fault : Fault}

theorem failsWith_iff_of_advance (read : t.scanner.advance = some (p, v)) :
    t.FailsWith fault ↔ (Move.ofMode t.lexeme p.char t.mode).sequel = .fail fault := by
  have taken : t.step = { t with scanner := v }.move p (.ofMode t.lexeme p.char t.mode) := by
    simp only [step, read]
  cases sequel : (Move.ofMode t.lexeme p.char t.mode).sequel with
  | goOn mode =>
    simp only [move, sequel] at taken
    simp [FailsWith, taken]
  | emit kind =>
    simp only [move, sequel] at taken
    simp [FailsWith, run_of_done taken, emit]
  | fail other =>
    simp only [move, sequel] at taken
    simp [FailsWith, run_of_done taken, taken, fail]

/-- The end of the source is no other fault. -/
theorem not_failsWith_at_end (read : t.scanner.advance = none)
    (other : fault ≠ .unexpectedEndOfInput) : ¬t.FailsWith fault := by
  have taken : t.step = .done t.sourceEnded := by simp only [step, read]
  rintro ⟨e, -, reports, rfl⟩
  rw [run_of_done taken, sourceEnded] at reports
  split at reports
  · cases reports
  · cases reports
    exact other rfl

theorem failsWith_tooManyPoints_iff : t.FailsWith (.malformedNumber .tooManyPoints) ↔
    t.mode = .fraction ∧ t.scanner.ahead.head? = some '.' ∧ maxPoints < t.lexeme.points + 1 := by
  cases read : t.scanner.advance with
  | none =>
    have nothing := Scanner.advance_eq_none_iff.mp read
    simp [not_failsWith_at_end read, nothing]
  | some found =>
    obtain ⟨p, v⟩ := found
    have next : t.scanner.ahead.head? = some p.char := by
      rw [(Scanner.advance_eq_some read).1]
      rfl
    rw [failsWith_iff_of_advance read, Move.sequel_eq_tooManyPoints_iff, next, Option.some_inj]

end Turn

theorem TurnOf.run_eq (h : TurnOf s t) : t.run = s.nextToken := by
  induction h with
  | begin => rfl
  | again _ goes ih => rw [← ih, Turn.run_of_again goes]

/-- The turn asks whether its lexeme ends in a point: neither a digit nor a point follows in a
fraction. -/
def Turn.AsksForLastPoint (t : Turn) : Prop :=
  t.mode = .fraction ∧ ∃ c, t.scanner.ahead.head? = some c ∧ isDigit c = false ∧ isPoint c = false

namespace Turn.KeepsLexeme

variable {text : List Char}

theorem points_eq_zero_iff (h : t.KeepsLexeme text) :
    t.lexeme.points = 0 ↔ '.' ∉ t.lexeme.text.toList := by
  rw [← UInt32.toNat_inj, h.points]
  exact List.count_eq_zero

/-- A lexeme with a point in it is that of a fraction, and has no room for another one. -/
theorem of_point (h : t.KeepsLexeme text) (point : '.' ∈ t.lexeme.text.toList) :
    t.mode = .fraction ∧ t.lexeme.points = 1 := by
  have counted : t.lexeme.points ≠ 0 := fun none => h.points_eq_zero_iff.mp none point
  have holds := h.mode
  cases m : t.mode <;> rw [m] at holds
  case fraction =>
    rcases holds with ⟨-, none, -⟩ | ⟨-, one, -⟩
    · exact absurd none counted
    · exact ⟨rfl, one⟩
  all_goals exact absurd holds.2 counted

/-- A fraction without a point in its lexeme has the point before it. -/
theorem next_of_no_point (h : t.KeepsLexeme text) (is : t.mode = .fraction)
    (noPoint : '.' ∉ t.lexeme.text.toList) : t.scanner.ahead.head? = some '.' := by
  have holds := h.mode
  rw [is] at holds
  rcases holds with ⟨-, -, slot⟩ | ⟨⟨whole, part, split, -⟩, -⟩
  · rw [Scanner.ahead, slot]
    rfl
  · simp [split] at noPoint

end Turn.KeepsLexeme

/-- **The loop keeps its lexeme.** In every turn of every call, whatever was asked of the scanner
before, the mode says what was read of the lexeme, and that is the last that was read of the source.
A point is put back only to be read again in the next turn, so behind the first turn the slot is
empty but for that. All points of the lexeme are counted: a second one, and nothing else, is one too
many, and it is not asked whether a lexeme ends in a point before there is one in it. -/
theorem loop_keeps_lexeme (h : Reachable source file s) (turn : TurnOf s t) :
    t.KeepsLexeme source.toList ∧
    (t.scanner.pending = none ∨ t = .begin s ∨
      t.mode = .fraction ∧ '.' ∉ t.lexeme.text.toList) ∧
    ((∃ e, t.step = .done s.nextToken ∧ s.nextToken.outcome = .failure e ∧
      e.fault = .malformedNumber .tooManyPoints) ↔
        '.' ∈ t.lexeme.text.toList ∧ t.scanner.ahead.head? = some '.') ∧
    (t.AsksForLastPoint → '.' ∈ t.lexeme.text.toList) := by
  obtain ⟨answers, session⟩ := h
  have between := session.between
  have keeps : t.KeepsLexeme source.toList := by
    rcases turn.stage between with rfl | stage
    · exact Turn.keepsLexeme_of_trivia (.inl rfl) _
    · have kept := stage.keepsLexeme
      rwa [List.take_append_drop] at kept
  refine ⟨keeps, ?_, ?_, ?_⟩
  · rcases turn.stage between with first | stage
    · exact .inr (.inl first)
    · exact stage.pending_cases.imp_right .inr
  · rw [← turn.run_eq]
    change t.FailsWith _ ↔ _
    rw [Turn.failsWith_tooManyPoints_iff]
    constructor
    · rintro ⟨is, next, many⟩
      by_cases point : '.' ∈ t.lexeme.text.toList
      · exact ⟨point, next⟩
      · rw [keeps.points_eq_zero_iff.mpr point] at many
        exact absurd many (by decide)
    · rintro ⟨point, next⟩
      obtain ⟨is, one⟩ := keeps.of_point point
      exact ⟨is, next, by rw [one]; decide⟩
  · rintro ⟨is, c, next, -, noPoint⟩
    by_cases point : '.' ∈ t.lexeme.text.toList
    · exact point
    · rw [keeps.next_of_no_point is point] at next
      cases next
      exact absurd noPoint (by decide)

/-- Behind the error, a call has put back the point of its number and read it again. The next
character is a second one. -/
theorem loop_keeps_lexeme_behind_error :
    let s := (Scanner.ofString "?7.." none).nextToken.scanner
    let t : Turn := ⟨⟨"?7..".toList.toArray, 3, ⟨1, 4⟩, none, "shell", true⟩, .fraction, ⟨"7.", 1⟩,
      [.putBack ⟨'.', ⟨1, 3⟩⟩]⟩
    Reachable "?7.." none s ∧ TurnOf s t ∧ t.KeepsLexeme "?7..".toList ∧
    ∃ e, s.nextToken.outcome = .failure e ∧ e.fault = .malformedNumber .tooManyPoints := by
  intro s t
  have reached : Reachable "?7.." none s := ⟨_, .nextToken .opened⟩
  have first : (Turn.begin s).step =
      .again ⟨⟨"?7..".toList.toArray, 2, ⟨1, 3⟩, none, "shell", true⟩, .integer, ⟨"7", 0⟩, []⟩ := by
    decide +kernel
  have turn : TurnOf s t := by
    have second := TurnOf.again (.again .begin first) rfl
    exact .again second (by decide +kernel)
  obtain ⟨keeps, -, second, -⟩ := loop_keeps_lexeme reached turn
  obtain ⟨e, -, reports, many⟩ := second.mpr ⟨by decide, by decide +kernel⟩
  exact ⟨reached, turn, keeps, e, reports, many⟩

end Lexical
