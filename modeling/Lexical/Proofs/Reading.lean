import Lexical.Proofs.Between
import Lexical.Proofs.CharClass
import Lexical.Proofs.Trivia
import Lexical.Scanner.NextToken

/-! What the automaton reads, as cuts of the text ahead.

A turn in the middle of a call is given by the scanner, the mode and the characters of the lexeme.
Runs of characters that leave the mode as it is are read at one go, and the character behind the run
decides about the outcome; so the call comes to the cut of the text. -/
namespace Lexical

open Scanner (Clear Between)
open Direct (Cut exists_run)

/-- The lexeme that consists of `cs`. -/
def Lexeme.ofChars (cs : List Char) : Lexeme := ⟨String.ofList cs, .ofNat (cs.count '.')⟩

theorem Lexeme.push_ofChars (cs : List Char) (c : Char) :
    (ofChars cs).push c = ofChars (cs ++ [c]) := by
  have text : (String.ofList cs).push c = String.ofList (cs ++ [c]) := by
    apply String.toList_injective
    simp
  have points : UInt32.ofNat ((cs ++ [c]).count '.') =
      if isPoint c then .ofNat (cs.count '.') + 1 else .ofNat (cs.count '.') := by
    by_cases h : c = '.'
    · rw [List.count_append, UInt32.ofNat_add]
      simp [isPoint, h]
    · simp [isPoint, h, List.count_append]
  rw [push, ofChars, ofChars, text, points]

theorem count_point_of_digits {cs : List Char} (digits : ∀ d ∈ cs, isDigit d = true) :
    cs.count '.' = 0 := by
  apply List.count_eq_zero.mpr
  intro h
  exact absurd (digits _ h) (by decide)

/-- Digits have room for a point behind them. -/
theorem Move.ofMode_point {cs : List Char} (digits : ∀ d ∈ cs, isDigit d = true) :
    ofMode (.ofChars cs) '.' .fraction = ⟨.keep, .goOn .fraction⟩ := by
  have none : (Lexeme.ofChars cs).points = 0 := by
    simp only [Lexeme.ofChars, count_point_of_digits digits]
    rfl
  simp only [ofMode, fraction, none]
  rfl

theorem Lexeme.points_ofChars_fraction {whole part : List Char}
    (hw : ∀ d ∈ whole, isDigit d = true) (hp : ∀ d ∈ part, isDigit d = true) :
    (ofChars (whole ++ '.' :: part)).points = 1 := by
  simp [ofChars, List.count_append, count_point_of_digits hw, count_point_of_digits hp]

theorem Lexeme.endsInPoint_ofChars_fraction {whole part : List Char}
    (hp : ∀ d ∈ part, isDigit d = true) :
    (ofChars (whole ++ '.' :: part)).endsInPoint = part.isEmpty := by
  rcases List.eq_nil_or_concat part with rfl | ⟨ds, d, rfl⟩
  · simp [ofChars, endsInPoint]
  · rw [List.concat_eq_append] at hp ⊢
    have hd : d ≠ '.' := by
      rintro rfl
      exact absurd (hp '.' (by simp)) (by decide)
    have text : whole ++ '.' :: (ds ++ [d]) = whole ++ '.' :: ds ++ [d] := by simp
    rw [text, ofChars, endsInPoint, String.toList_ofList, List.getLast?_concat]
    have full : (ds ++ [d]).isEmpty = false := by cases ds <;> rfl
    simpa [full] using hd

/-- Goes on with a call, if it is not done. -/
def Step.resume : Step → Call
  | .again u => u.run
  | .done call => call

theorem Turn.run_eq_resume (t : Turn) : t.run = t.step.resume := by
  cases h : t.step with
  | again u => exact t.run_of_again h
  | done call => exact t.run_of_done h

variable {s : Scanner} {mode next : Mode} {l : Lexeme} {events : List Event}
  {read before ahead cs run : List Char} {c : Char}

namespace Turn

/-- One turn: the next character is read, and the automaton's move is made with it. -/
theorem run_eq_move (h : s.Between read (c :: cs)) :
    ∃ t : Scanner, t.Clear (read ++ [c]) cs ∧ (Turn.mk s mode l events).run =
      ((Turn.mk t mode l events).move ⟨c, .behind read⟩ (.ofMode l c mode)).resume := by
  obtain ⟨t, ht, clear⟩ := h.advance
  refine ⟨t, clear, ?_⟩
  rw [run_eq_resume, step, ht]

theorem run_of_skip (h : s.Between read (c :: cs))
    (m : Move.ofMode l c mode = ⟨.skip, .goOn next⟩) :
    ∃ t : Scanner, t.Clear (read ++ [c]) cs ∧
      (Turn.mk s mode l events).run = (Turn.mk t next l events).run := by
  obtain ⟨t, clear, e⟩ := run_eq_move h
  exact ⟨t, clear, by rw [e, m]; rfl⟩

theorem run_of_keep (h : s.Between read (c :: cs))
    (m : Move.ofMode (.ofChars run) c mode = ⟨.keep, .goOn next⟩) :
    ∃ t : Scanner, t.Clear (read ++ [c]) cs ∧
      (Turn.mk s mode (.ofChars run) events).run =
        (Turn.mk t next (.ofChars (run ++ [c])) events).run := by
  obtain ⟨t, clear, e⟩ := run_eq_move h
  exact ⟨t, clear, by rw [e, m, ← Lexeme.push_ofChars]; rfl⟩

/-- Characters that do not change the mode join the lexeme all at once. -/
theorem run_of_keep_all {p : Char → Bool}
    (keeps : ∀ l c, p c = true → Move.ofMode l c mode = ⟨.keep, .goOn mode⟩)
    (inside : ∀ c ∈ run, p c = true) {begun : List Char} (h : s.Clear read (run ++ cs)) :
    ∃ t : Scanner, t.Clear (read ++ run) cs ∧
      (Turn.mk s mode (.ofChars begun) events).run =
        (Turn.mk t mode (.ofChars (begun ++ run)) events).run := by
  induction run generalizing s read begun with
  | nil => exact ⟨s, by simpa using h, by simp⟩
  | cons c run ih =>
    obtain ⟨t, clear, e⟩ := run_of_keep (.clear h) (keeps (.ofChars begun) c (inside c (by simp)))
    obtain ⟨u, clear', e'⟩ := ih (fun d hd => inside d (by simp [hd])) clear
    exact ⟨u, by simpa using clear', by rw [e, e']; simp⟩

/-- A lexeme that was begun grows by the longest run ahead. -/
theorem exists_longest_run {p : Char → Bool}
    (keeps : ∀ l c, p c = true → Move.ofMode l c mode = ⟨.keep, .goOn mode⟩)
    {begun : List Char} (h : s.Clear (before ++ begun) cs) (events : List Event) :
    ∃ (run rest : List Char) (t : Scanner), cs = run ++ rest ∧ (∀ c ∈ run, p c = true) ∧
      (∀ c ∈ rest.head?, p c = false) ∧ t.Between (before ++ (begun ++ run)) rest ∧
      (Turn.mk s mode (.ofChars begun) events).run =
        (Turn.mk t mode (.ofChars (begun ++ run)) events).run := by
  obtain ⟨run, rest, rfl, inside, stop⟩ := exists_run p cs
  obtain ⟨t, clear, e⟩ := run_of_keep_all keeps inside h
  exact ⟨run, rest, t, rfl, inside, stop, .clear (by simpa using clear), e⟩

end Turn

/-- What a cut behind `before` reports. A point too many is the last character of its lexeme; any
other fault lies behind the lexeme. -/
def Direct.Cut.outcome (before : List Char) (cut : Cut) : Outcome :=
  match cut.verdict with
  | .token kind => .token ⟨kind, String.ofList cut.lexeme⟩
  | .fault fault =>
    let read := before ++ cut.lexeme
    let place := if fault = .malformedNumber .tooManyPoints then read.dropLast else read
    .failure ⟨fault, .behind place, String.ofList cut.lexeme⟩
  | .endOfSource => .endOfSource

/-- The call reports what `cut` does, and has read that much of `ahead`, which lies behind
`before`. -/
structure Call.Makes (call : Call) (cut : Cut) (before ahead : List Char) : Prop where
  outcome : call.outcome = cut.outcome before
  between : ∃ rest, ahead = cut.lexeme ++ cut.lost ++ rest ∧
    call.scanner.Between (before ++ (cut.lexeme ++ cut.lost)) rest

namespace Turn

theorem makes_of_putBack_emit {kind : TokenKind} (h : s.Between (before ++ run) (c :: cs))
    (m : Move.ofMode (.ofChars run) c mode = ⟨.putBack, .emit kind⟩) :
    (Turn.mk s mode (.ofChars run) events).run.Makes (.token run kind) before (run ++ c :: cs) := by
  obtain ⟨t, clear, e⟩ := run_eq_move h
  rw [e, m]
  refine ⟨rfl, c :: cs, by simp [Cut.token], ?_⟩
  simpa [Cut.token, move, use, emit, Step.resume] using Between.putBack clear

theorem makes_of_keep_emit {kind : TokenKind} (h : s.Between (before ++ run) (c :: cs))
    (m : Move.ofMode (.ofChars run) c mode = ⟨.keep, .emit kind⟩) :
    (Turn.mk s mode (.ofChars run) events).run.Makes (.token (run ++ [c]) kind) before
      (run ++ c :: cs) := by
  obtain ⟨t, clear, e⟩ := run_eq_move h
  rw [e, m]
  refine ⟨?_, cs, by simp [Cut.token], ?_⟩
  · change Outcome.token ⟨kind, ((Lexeme.ofChars run).push c).text⟩ = _
    rw [Lexeme.push_ofChars]
    rfl
  · simpa [Cut.token, move, use, emit, Step.resume] using Between.clear clear

theorem makes_of_skip_fail {fault : Fault} (h : s.Between (before ++ run) (c :: cs))
    (m : Move.ofMode (.ofChars run) c mode = ⟨.skip, .fail fault⟩)
    (ne : fault ≠ .malformedNumber .tooManyPoints) :
    (Turn.mk s mode (.ofChars run) events).run.Makes ⟨run, .fault fault, [c]⟩ before
      (run ++ c :: cs) := by
  obtain ⟨t, clear, e⟩ := run_eq_move h
  rw [e, m]
  refine ⟨by simp [Cut.outcome, ne, move, use, fail, Step.resume, Lexeme.ofChars], cs, by simp, ?_⟩
  simpa [move, use, fail, Step.resume] using (Between.clear clear).finish

theorem makes_of_keep_fail (h : s.Between (before ++ run) (c :: cs))
    (m : Move.ofMode (.ofChars run) c mode =
      ⟨.keep, .fail (.malformedNumber .tooManyPoints)⟩) :
    (Turn.mk s mode (.ofChars run) events).run.Makes
      ⟨run ++ [c], .fault (.malformedNumber .tooManyPoints), []⟩ before (run ++ c :: cs) := by
  obtain ⟨t, clear, e⟩ := run_eq_move h
  rw [e, m]
  refine ⟨?_, cs, by simp, ?_⟩
  · change Outcome.failure ⟨_, .behind (before ++ run), ((Lexeme.ofChars run).push c).text⟩ =
      .failure ⟨_, .behind (before ++ (run ++ [c])).dropLast, String.ofList (run ++ [c])⟩
    rw [Lexeme.push_ofChars, ← List.append_assoc, List.dropLast_concat]
    rfl
  · simpa [move, use, fail, Step.resume] using (Between.clear clear).finish

theorem makes_unended (h : s.Between (before ++ run) []) (lexing : mode.isTrivia = false) :
    (Turn.mk s mode (.ofChars run) events).run.Makes (.unended run) before run := by
  rw [run_eq_resume, step, h.advance_nil]
  refine ⟨?_, [], by simp [Cut.unended], ?_⟩
  · simp [sourceEnded, lexing, fail, Step.resume, Cut.unended, Cut.outcome, h.position,
      Lexeme.ofChars]
  · simpa [sourceEnded, lexing, fail, Step.resume, Cut.unended] using h.finish

/-! ## The modes of a lexeme -/

theorem makes_word (h : s.Clear (before ++ [c]) cs) (first : isWordPart c = true) :
    (Turn.mk s .word (.ofChars [c]) events).run.Makes (.word (c :: cs)) before (c :: cs) := by
  have keeps : ∀ l d, isWordPart d = true → Move.ofMode l d .word = ⟨.keep, .goOn .word⟩ := by
    intro l d hd
    simp [Move.ofMode, Move.word, hd]
  obtain ⟨run, rest, t, rfl, inside, stop, between, e⟩ := exists_longest_run keeps h events
  rw [List.singleton_append] at between e
  rw [e, ← List.cons_append, Cut.word_run (by simpa [first] using inside) stop]
  cases rest with
  | nil => simpa using makes_unended between rfl
  | cons d more =>
    have hd := stop d rfl
    by_cases bad : isInvalid d = true
    · simp only [bad, if_true]
      exact makes_of_skip_fail between (by simp [Move.ofMode, Move.word, hd, bad]) (by simp)
    · simp only [bad]
      exact makes_of_putBack_emit between
        (by simp [Move.ofMode, Move.word, hd, bad, Lexeme.ofChars])

/-- Behind its first point a number goes on as a fraction. -/
theorem makes_fraction {whole : List Char} (h : s.Clear (before ++ (whole ++ ['.'])) cs)
    (digits : ∀ d ∈ whole, isDigit d = true) :
    (Turn.mk s .fraction (.ofChars (whole ++ ['.'])) events).run.Makes (.fraction whole cs) before
      (whole ++ '.' :: cs) := by
  have keeps : ∀ l d, isDigit d = true →
      Move.ofMode l d .fraction = ⟨.keep, .goOn .fraction⟩ := by
    intro l d hd
    simp [Move.ofMode, Move.fraction, hd]
  obtain ⟨part, rest, t, rfl, inside, stop, between, e⟩ := exists_longest_run keeps h events
  rw [List.append_assoc, List.singleton_append] at between e
  have ahead : whole ++ '.' :: (part ++ rest) = whole ++ '.' :: part ++ rest := by simp
  rw [e, ahead, Cut.fraction_run inside stop]
  cases rest with
  | nil => simpa using makes_unended between rfl
  | cons d more =>
    have hd := stop d rfl
    have points := Lexeme.points_ofChars_fraction digits inside
    have ends : (Lexeme.ofChars (whole ++ '.' :: part)).endsInPoint = part.isEmpty :=
      Lexeme.endsInPoint_ofChars_fraction inside
    by_cases point : isPoint d = true
    · simp only [point, if_true]
      exact makes_of_keep_fail between
        (by simp [Move.ofMode, Move.fraction, hd, point, points, maxPoints])
    · simp only [point]
      cases none : part.isEmpty
      · simp only [Bool.false_eq_true, if_false]
        exact makes_of_putBack_emit between
          (by simp [Move.ofMode, Move.fraction, hd, point, ends, none])
      · simp only [Bool.false_eq_true, if_true, if_false]
        exact makes_of_skip_fail between
          (by simp [Move.ofMode, Move.fraction, hd, point, ends, none]) (by simp)

/-- A point behind an integer is put back, and read again as part of a fraction. -/
theorem run_of_point (h : s.Between read ('.' :: cs)) (digits : ∀ d ∈ run, isDigit d = true) :
    ∃ t : Scanner, t.Clear (read ++ ['.']) cs ∧
      (Turn.mk s .integer (.ofChars run) events).run =
        (Turn.mk t .fraction (.ofChars (run ++ ['.']))
          (events ++ [.putBack ⟨'.', .behind read⟩])).run := by
  obtain ⟨t, clear, e⟩ := run_eq_move h
  obtain ⟨u, clear', e'⟩ := run_of_keep (.putBack clear) (Move.ofMode_point digits)
  exact ⟨u, clear', by rw [e, ← e']; rfl⟩

theorem makes_integer (h : s.Clear (before ++ [c]) cs) (first : isDigit c = true) :
    (Turn.mk s .integer (.ofChars [c]) events).run.Makes (.number (c :: cs)) before (c :: cs) := by
  have keeps : ∀ l d, isDigit d = true → Move.ofMode l d .integer = ⟨.keep, .goOn .integer⟩ := by
    intro l d hd
    simp [Move.ofMode, Move.integer, hd]
  obtain ⟨run, rest, t, rfl, inside, stop, between, e⟩ := exists_longest_run keeps h events
  rw [List.singleton_append] at between e
  have digits : ∀ d ∈ c :: run, isDigit d = true := by simpa [first] using inside
  rw [e, ← List.cons_append, Cut.number_run digits stop]
  cases rest with
  | nil => simpa using makes_unended between rfl
  | cons d more =>
    have hd := stop d rfl
    by_cases point : isPoint d = true
    · simp only [point, if_true]
      cases beq_iff_eq.mp point
      obtain ⟨u, clear, e⟩ := run_of_point between digits
      change (Turn.mk t .integer (.ofChars (c :: run)) events).run.Makes _ _ _
      rw [e]
      exact makes_fraction (by simpa using clear) digits
    · simp only [point]
      by_cases bad : (isLetter d || isInvalid d) = true
      · simp only [bad, Bool.false_eq_true, if_true, if_false]
        exact makes_of_skip_fail between
          (by simp only [Move.ofMode, Move.integer, hd, point, bad]; rfl) (by simp)
      · simp only [bad, Bool.false_eq_true, if_false]
        exact makes_of_putBack_emit between
          (by simp only [Move.ofMode, Move.integer, hd, point, bad]; rfl)

theorem makes_operator {alone : TokenKind}
    (h : s.Clear (before ++ [c]) cs) (lexing : mode.isTrivia = false)
    (moves : ∀ l d, Move.ofMode l d mode =
      if isAssignment d then ⟨.keep, .emit .relOperator⟩ else ⟨.putBack, .emit alone⟩) :
    (Turn.mk s mode (.ofChars [c]) events).run.Makes (.operator alone c cs) before (c :: cs) := by
  cases cs with
  | nil => exact makes_unended (.clear h) lexing
  | cons d more =>
    by_cases eq : isAssignment d = true
    · simp only [Cut.operator, if_pos eq]
      exact makes_of_keep_emit (.clear h) (by rw [moves, if_pos eq])
    · simp only [Cut.operator, if_neg eq]
      exact makes_of_putBack_emit (.clear h) (by rw [moves, if_neg eq])

/-- A text that begins with neither a blank nor a comment begins with what is cut from it. -/
theorem makes_start (h : s.Between before (c :: cs)) (blank : isWhitespace c = false)
    (comment : isCommentStart c = false) :
    (Turn.mk s .start (.ofChars []) events).run.Makes (.ofText (c :: cs)) before (c :: cs) := by
  have within : s.Between (before ++ []) (c :: cs) := by simpa using h
  have begins {next : Mode} (m : Move.start c = ⟨.keep, .goOn next⟩) :
      ∃ t : Scanner, t.Clear (before ++ [c]) cs ∧
        (Turn.mk s .start (.ofChars []) events).run =
          (Turn.mk t next (.ofChars [c]) events).run := run_of_keep h m
  have passes := CharClass.test_ofChar c
  cases k : CharClass.ofChar c <;> simp only [k, CharClass.test] at passes <;>
    simp only [Cut.ofText, k]
  case whitespace => simp [passes] at blank
  case commentStart => simp [passes] at comment
  case letter | underscore =>
    obtain ⟨t, clear, e⟩ := begins (by simp only [Move.start, k]; rfl)
    rw [e]
    exact makes_word clear (by simp [isWordPart, passes])
  case digit =>
    obtain ⟨t, clear, e⟩ := begins (by simp only [Move.start, k]; rfl)
    rw [e]
    exact makes_integer clear passes
  case point =>
    obtain ⟨t, clear, e⟩ := begins (by simp only [Move.start, k]; rfl)
    cases beq_iff_eq.mp passes
    rw [e]
    exact makes_fraction (show t.Clear (before ++ ([] ++ ['.'])) cs from clear) (by simp)
  case assignment | relOperator =>
    obtain ⟨t, clear, e⟩ := begins (by simp only [Move.start, k]; rfl)
    rw [e]
    exact makes_operator clear rfl fun _ _ => rfl
  case mathOperator => exact makes_of_keep_emit within (by simp [Move.ofMode, Move.start, k])
  case parenthesis => exact makes_of_keep_emit within (by simp [Move.ofMode, Move.start, k])
  case invalid => exact makes_of_skip_fail within (by simp [Move.ofMode, Move.start, k]) (by simp)

/-! ## Blanks and comments -/

/-- At the end of its line or of the source a comment is as good as over. -/
theorem run_comment (h : s.Between read ahead) (stop : ∀ d ∈ ahead.head?, isEndOfLine d = true) :
    (Turn.mk s .comment l events).run = (Turn.mk s .start l events).run := by
  rw [run_eq_resume, run_eq_resume (Turn.mk s .start l events)]
  congr 1
  cases ahead with
  | nil => simp only [step, h.advance_nil]; rfl
  | cons d more =>
    obtain ⟨t, ht, -⟩ := h.advance
    have ends := stop d rfl
    have blank : CharClass.ofChar d = .whitespace := by
      apply CharClass.ofChar_of_test _ (by simp)
      simp only [isEndOfLine, Bool.or_eq_true, beq_iff_eq] at ends
      rcases ends with rfl | rfl <;> rfl
    simp only [step, ht, Move.ofMode, Move.comment, ends, Move.start, blank]
    rfl

theorem run_in_comment (inside : ∀ d ∈ run, isEndOfLine d = false)
    (h : s.Clear read (run ++ ahead)) :
    ∃ t : Scanner, t.Clear (read ++ run) ahead ∧
      (Turn.mk s .comment l events).run = (Turn.mk t .comment l events).run := by
  induction run generalizing s read with
  | nil => exact ⟨s, by simpa using h, rfl⟩
  | cons d run ih =>
    have m : Move.ofMode l d .comment = ⟨.skip, .goOn .comment⟩ := by
      simp [Move.ofMode, Move.comment, inside d]
    obtain ⟨t, clear, e⟩ := run_of_skip (.clear h) m
    obtain ⟨u, clear', e'⟩ := ih (fun d' hd => inside d' (by simp [hd])) clear
    exact ⟨u, by simpa using clear', e.trans e'⟩

theorem run_of_skipped (h : s.Between before ahead) :
    ∃ (t : Scanner) (gap : List Char), ahead = gap ++ Direct.skip ahead ∧
      t.Between (before ++ gap) (Direct.skip ahead) ∧
      (Turn.mk s .start l events).run = (Turn.mk t .start l events).run := by
  fun_induction Direct.skip ahead generalizing s before with
  | case1 => exact ⟨s, [], rfl, by simpa using h, rfl⟩
  | case2 c cs blank ih =>
    have m : Move.ofMode l c .start = ⟨.skip, .goOn .start⟩ := by
      simp [Move.ofMode, Move.start, CharClass.ofChar_of_test (k := .whitespace) blank]
    obtain ⟨t, clear, e⟩ := run_of_skip h m
    obtain ⟨u, gap, split, hu, e'⟩ := ih (.clear clear)
    exact ⟨u, c :: gap, by rw [List.cons_append, ← split], by simpa using hu, e.trans e'⟩
  | case3 c cs _ starts ih =>
    have m : Move.ofMode l c .start = ⟨.skip, .goOn .comment⟩ := by
      simp [Move.ofMode, Move.start, CharClass.ofChar_of_test (k := .commentStart) starts]
    obtain ⟨t, clear, e⟩ := run_of_skip h m
    obtain ⟨body, rest, rfl, inside, stop⟩ := exists_run (!isEndOfLine ·) cs
    rw [Direct.dropWhile_run inside stop] at ih ⊢
    obtain ⟨u, clear', e'⟩ := run_in_comment (by simpa using inside) clear
    have left : (Turn.mk u .comment l events).run = (Turn.mk u .start l events).run :=
      run_comment (.clear clear') (by simpa using stop)
    obtain ⟨v, gap, split, hv, e''⟩ := ih (.clear clear')
    refine ⟨v, c :: (body ++ gap), ?_, by simpa using hv, ?_⟩
    · rw [List.cons_append, List.append_assoc, ← split]
    · rw [e, e', left, e'']
  | case4 c cs => exact ⟨s, [], rfl, by simpa using h, rfl⟩

end Turn

/-- A call skips blanks and comments and then makes the cut of the rest. -/
theorem Scanner.Between.nextToken (h : s.Between read ahead) :
    ∃ gap, ahead = gap ++ Direct.skip ahead ∧
      s.nextToken.Makes (.ofText (Direct.skip ahead)) (read ++ gap) (Direct.skip ahead) := by
  obtain ⟨t, gap, split, between, e⟩ := Turn.run_of_skipped h
  refine ⟨gap, split, ?_⟩
  have begins : s.nextToken = (Turn.mk t .start (.ofChars []) []).run := e
  rw [begins]
  have stop := Direct.head_skip ahead
  cases front : Direct.skip ahead with
  | nil =>
    rw [front] at between
    rw [Turn.run_eq_resume, Turn.step, between.advance_nil]
    refine ⟨rfl, [], rfl, ?_⟩
    change t.finish.Between (read ++ gap ++ []) []
    rw [List.append_nil]
    exact between.finish
  | cons c cs =>
    rw [front] at between stop
    exact Turn.makes_start between (stop c rfl).1 (stop c rfl).2

end Lexical
