import Lexical.Proofs.Calls
import Lexical.Proofs.Position
import Lexical.Scanner.Stream

/-! What `tokenize` makes of a whole text.

Every text either is laid out as tokens or comes, behind tokens, to a front that is diagnosed. The
stream reads the tokens of a layout one by one and then says which of the two it was. -/
namespace Lexical

open Grammar
open Scanner (Between)

namespace Grammar

variable {text rest cs : List Char} {t : Token} {tokens ts : List Token}

/-- The text is `tokens`, with trivia before, between and behind them. The end of the source comes
right behind a token only if the token needs nothing behind it. -/
def IsLayout (tokens : List Token) (text : List Char) : Prop :=
  ∃ final, FinalTrivia final ∧ Layout final tokens text ∧
    (final = [] → ∀ t ∈ tokens.getLast?, IsClosed t)

/-- The text is `before` and then `front`, and `before` is `tokens` with trivia before, between and
behind them, each comment closed. -/
structure LeadsTo (text before front : List Char) (tokens : List Token) : Prop where
  split : text = before ++ front
  layout : ∃ gap, Trivia gap ∧ Layout (gap ++ front) tokens text

/-- What separates tokens may follow any of them: a layout restricts tokens only where nothing
separates them. -/
theorem mayFollow_of_separator {c : Char}
    (separates : isWhitespace c = true ∨ isCommentStart c = true) : MayFollow t c := by
  have fails : isWordPart c = false ∧ isDigit c = false ∧ isPoint c = false ∧
      isLetter c = false ∧ isInvalid c = false ∧ isAssignment c = false := by
    simp only [isWhitespace, isCommentStart, Bool.or_eq_true, beq_iff_eq] at separates
    rcases separates with (((rfl | rfl) | rfl) | rfl) | rfl <;> decide
  unfold MayFollow
  cases t.kind <;> simp [fails]

theorem WellFormed.ne_nil (h : WellFormed t) : t.text.toList ≠ [] := by
  intro none
  obtain ⟨kind, text⟩ := t
  simp only [WellFormed, none] at h
  cases kind with
  | identifier =>
    obtain ⟨⟨_, _, e, _⟩, _⟩ := h
    cases e
  | reserved =>
    change String.ofList [] ∈ reservedWords at h
    exact absurd h (by decide)
  | number =>
    rcases h with h | ⟨whole, _, e, _⟩
    · exact h.1 rfl
    · cases whole <;> cases e
  | assignment => cases h
  | relOperator => simp [Shape] at h
  | mathOperator | parenthesis =>
    obtain ⟨_, e, _⟩ := h
    cases e

/-- The last token of a tail is the last of all. -/
theorem isClosed_of_tail (ends : rest = [] → ∀ u ∈ (t :: ts).getLast?, IsClosed u) :
    rest = [] → ∀ u ∈ ts.getLast?, IsClosed u := by
  intro none u last
  apply ends none u
  cases ts with
  | nil => cases last
  | cons => simpa using last

/-- Only the last token of a layout can end the text. -/
theorem fits_of_layout (formed : WellFormed t) (apart : ∀ c ∈ cs.head?, MayFollow t c)
    (more : Layout rest ts cs) (ends : rest = [] → ∀ u ∈ (t :: ts).getLast?, IsClosed u) :
    Fits t cs := by
  refine ⟨formed, apart, ?_⟩
  rintro rfl
  generalize none : ([] : List Char) = text at more
  cases more with
  | nil => exact ends none.symm t (by simp)
  | cons _ formed' => simp [formed'.ne_nil] at none

theorem Layout.length_le (h : Layout rest tokens text) : tokens.length ≤ text.length := by
  induction h with
  | nil => simp
  | @cons trivia t ts cs _ formed _ _ ih =>
    have := List.length_pos_iff.mpr formed.ne_nil
    simp only [List.length_cons, List.length_append]
    omega

theorem IsLayout.cons {gap : List Char} (blank : Trivia gap) (fits : Fits t cs)
    (h : IsLayout ts cs) : IsLayout (t :: ts) (gap ++ t.text.toList ++ cs) := by
  obtain ⟨final, trivia, laid, ends⟩ := h
  refine ⟨final, trivia, .cons blank fits.formed fits.apart laid, ?_⟩
  intro none u last
  cases laid with
  | nil => simpa [← Option.some.inj last] using fits.closed none
  | cons => exact ends none u (by simpa using last)

theorem LeadsTo.cons {gap before front : List Char} (blank : Trivia gap) (fits : Fits t cs)
    (h : LeadsTo cs before front ts) :
    LeadsTo (gap ++ t.text.toList ++ cs) (gap ++ t.text.toList ++ before) front (t :: ts) := by
  obtain ⟨split, gap', blank', laid⟩ := h
  exact ⟨by simp [split], gap', blank', .cons blank fits.formed fits.apart laid⟩

/-- Every text is laid out as tokens, or tokens lead to a front that is diagnosed. -/
theorem exists_layout (text : List Char) :
    (∃ tokens, IsLayout tokens text) ∨
      ∃ before front tokens fault lexeme lost place,
        LeadsTo text before front tokens ∧ Diagnosis front fault lexeme lost place := by
  induction size : text.length using Nat.strongRecOn generalizing text with
  | ind n ih =>
    cases meets text with
    | endOfSource final => exact .inl ⟨[], text, final, .nil, by simp⟩
    | @fault gap front lexeme lost place fault blank wrong =>
      exact .inr ⟨gap, front, [], fault, lexeme, lost, place, ⟨rfl, gap, blank, .nil⟩, wrong⟩
    | @token gap rest t blank fits =>
      have shorter : rest.length < n := by
        have := List.length_pos_iff.mpr fits.formed.ne_nil
        simp only [List.length_append] at size
        omega
      rw [← List.append_assoc]
      rcases ih _ shorter rest rfl with
        ⟨ts, laid⟩ | ⟨before, front, ts, fault, lexeme, lost, place, leads, wrong⟩
      · exact .inl ⟨t :: ts, laid.cons blank fits⟩
      · exact .inr ⟨_, front, t :: ts, fault, lexeme, lost, place, leads.cons blank fits, wrong⟩

end Grammar

namespace Scanner

variable {s : Scanner} {read text rest : List Char} {tokens : List Token} {t : Token}
  {e : ScanError}

theorem items_take_of_finished (h : s.finished = true) (n : Nat) : (s.take n).items = [] := by
  cases n with
  | zero => rfl
  | succ n => rw [take_succ, next_of_finished h]

theorem items_take_of_token (going : s.finished = false) (h : s.nextToken.outcome = .token t)
    (n : Nat) : (s.take (n + 1)).items = .ok t :: (s.nextToken.scanner.take n).items := by
  rw [take_succ, next_of_open going, h]
  rfl

/-- The stream has no item behind an error. -/
theorem items_take_of_failure (going : s.finished = false)
    (h : s.nextToken.outcome = .failure e) (n : Nat) : (s.take (n + 1)).items = [.error e] := by
  have stopped : s.nextToken.scanner.finished = true := by
    rw [finished_nextToken, h, Outcome.endsStream, Bool.or_true]
  rw [take_succ, next_of_open going, h]
  change .error e :: (s.nextToken.scanner.take n).items = _
  rw [items_take_of_finished stopped]

theorem items_take_of_endOfSource (going : s.finished = false)
    (h : s.nextToken.outcome = .endOfSource) (n : Nat) : (s.take (n + 1)).items = [] := by
  rw [take_succ, next_of_open going, h]
  rfl

/-- The stream reads a layout token by token and comes to what is behind it. -/
theorem Between.items_take_of_layout (h : s.Between read text) (going : s.finished = false)
    (layout : Layout rest tokens text) (ends : rest = [] → ∀ t ∈ tokens.getLast?, IsClosed t) :
    ∃ (before : List Char) (u : Scanner), text = before ++ rest ∧
      u.Between (read ++ before) rest ∧ u.finished = false ∧
      ∀ n, (s.take (tokens.length + n)).items = tokens.map .ok ++ (u.take n).items := by
  -- Along the layout, with the stream still open: only tokens were found so far.
  induction layout generalizing s read with
  | nil => exact ⟨[], s, rfl, by simpa using h, going, fun n => by simp⟩
  | @cons trivia t ts cs blank formed apart more ih =>
    have fits := fits_of_layout formed apart more ends
    rw [List.append_assoc] at h
    obtain ⟨outcome, between⟩ := h.nextToken_of_fits blank fits
    have going' : s.nextToken.scanner.finished = false := by
      rw [finished_nextToken, going, outcome, Outcome.endsStream, Bool.or_false]
    obtain ⟨before, u, split, between', going'', items⟩ := ih between going' (isClosed_of_tail ends)
    refine ⟨trivia ++ t.text.toList ++ before, u, by simp [split], by simpa using between', going'',
      fun n => ?_⟩
    rw [List.length_cons, Nat.add_right_comm, items_take_of_token going outcome, items]
    rfl

end Scanner

/-! ## All the items -/

variable {source : String} {file : Option String} {tokens : List Token} {rest : List Char}

theorem mapM_tokens_append (tokens : List Token) (items : List Item) :
    (tokens.map .ok ++ items : List Item).mapM id = (items.mapM id).map (tokens ++ ·) := by
  induction tokens with
  | nil => cases h : items.mapM id <;> simp [h, Except.map]
  | cons t ts ih =>
    cases h : items.mapM id <;>
      simp [h, ih, bind, Except.bind, Except.map, pure, Except.pure]

/-- There are enough draws to come to what is behind a layout and to look at it. -/
theorem items_rest_of_layout (layout : Layout rest tokens source.toList)
    (ends : rest = [] → ∀ t ∈ tokens.getLast?, IsClosed t) :
    ∃ (before : List Char) (u : Scanner) (n : Nat), source.toList = before ++ rest ∧
      u.Between before rest ∧ u.finished = false ∧
      (Scanner.ofString source file).rest.items = tokens.map .ok ++ (u.take (n + 1)).items := by
  have opened := Scanner.between_ofString source file
  obtain ⟨before, u, split, between, going, items⟩ := opened.items_take_of_layout rfl layout ends
  obtain ⟨n, enough⟩ : ∃ n, source.toList.length + 1 = tokens.length + (n + 1) :=
    ⟨source.toList.length - tokens.length, by have := layout.length_le; omega⟩
  refine ⟨before, u, n, split, between, going, ?_⟩
  rw [Scanner.rest, opened.remaining, enough, items]

/-- The stream of a layout holds its tokens and nothing else. -/
theorem items_rest_of_isLayout (h : IsLayout tokens source.toList) :
    (Scanner.ofString source file).rest.items = tokens.map .ok := by
  obtain ⟨final, trivia, layout, ends⟩ := h
  obtain ⟨before, u, n, -, between, going, items⟩ := items_rest_of_layout layout ends
  have ended := (between.nextToken_of_finalTrivia trivia).1
  rw [items, Scanner.items_take_of_endOfSource going ended, List.append_nil]

/-- Before a front that is diagnosed the stream holds the tokens that lead to it. -/
theorem items_rest_of_leadsTo {before front lexeme lost place : List Char} {fault : Fault}
    (h : LeadsTo source.toList before front tokens)
    (wrong : Diagnosis front fault lexeme lost place) :
    (Scanner.ofString source file).rest.items =
      tokens.map .ok ++ [.error ⟨fault, .behind (before ++ place), String.ofList lexeme⟩] := by
  obtain ⟨split, gap, blank, layout⟩ := h
  obtain ⟨before', u, n, split', between, going, items⟩ :=
    items_rest_of_layout layout fun none => absurd (List.append_eq_nil_iff.mp none).2 wrong.ne_nil
  have both : before ++ front = before' ++ gap ++ front := by
    rw [← split, split', List.append_assoc]
  have same := List.append_cancel_right both
  have fails := (between.nextToken_of_diagnosis blank wrong).1
  rw [items, Scanner.items_take_of_failure going fails, same]

theorem tokenize_of_isLayout (h : IsLayout tokens source.toList) :
    tokenize source file = .ok tokens := by
  have accepted := mapM_tokens_append tokens []
  rw [List.append_nil] at accepted
  rw [tokenize, Run.tokens, items_rest_of_isLayout h, accepted]
  simp [Except.map, pure, Except.pure]

theorem tokenize_of_leadsTo {before front lexeme lost place : List Char} {fault : Fault}
    (h : LeadsTo source.toList before front tokens)
    (wrong : Diagnosis front fault lexeme lost place) :
    tokenize source file =
      .error ⟨fault, .behind (before ++ place), String.ofList lexeme⟩ := by
  rw [tokenize, Run.tokens, items_rest_of_leadsTo h wrong, mapM_tokens_append]
  rfl

/-- An error is the diagnosis of a front that tokens lead to. -/
theorem exists_leadsTo {e : ScanError} (rejected : tokenize source file = .error e) :
    ∃ before front tokens fault lexeme lost place, LeadsTo source.toList before front tokens ∧
      Diagnosis front fault lexeme lost place ∧
      e = ⟨fault, .behind (before ++ place), String.ofList lexeme⟩ := by
  rcases exists_layout source.toList with
    ⟨tokens, laid⟩ | ⟨before, front, tokens, fault, lexeme, lost, place, leads, wrong⟩
  · rw [tokenize_of_isLayout laid] at rejected
    cases rejected
  · rw [tokenize_of_leadsTo leads wrong] at rejected
    exact ⟨before, front, tokens, fault, lexeme, lost, place, leads, wrong,
      (Except.error.inj rejected).symm⟩

/-- **Acceptance.** A text is accepted exactly if it is a layout of tokens, and then it is they that
are returned. -/
theorem tokenize_eq_ok_iff (source : String) (file : Option String) (tokens : List Token) :
    tokenize source file = .ok tokens ↔ IsLayout tokens source.toList := by
  constructor
  · intro accepted
    rcases exists_layout source.toList with
      ⟨tokens', laid⟩ | ⟨before, front, tokens', fault, lexeme, lost, place, leads, wrong⟩
    · rw [tokenize_of_isLayout laid] at accepted
      cases accepted
      exact laid
    · rw [tokenize_of_leadsTo leads wrong] at accepted
      cases accepted
  · exact tokenize_of_isLayout

/-- **Diagnosis.** A text is rejected with an error exactly if tokens lead to a front with that
diagnosis, at the place that the position counts; no front has two. -/
theorem tokenize_eq_error_iff (small : source.length + 1 < UInt32.size) (file : Option String)
    (e : ScanError) :
    (tokenize source file = .error e ↔
      ∃ before front tokens lost place, LeadsTo source.toList before front tokens ∧
        Diagnosis front e.fault e.lexeme.toList lost place ∧
        e.position.Marks (before ++ place)) ∧
    ∀ {front lexeme lost place lexeme' lost' place' : List Char} {fault fault' : Fault},
      Diagnosis front fault lexeme lost place → Diagnosis front fault' lexeme' lost' place' →
      fault = fault' ∧ lexeme = lexeme' ∧ lost = lost' ∧ place = place' := by
  have counted {before front lexeme lost place : List Char} {tokens : List Token} {fault : Fault}
      (leads : LeadsTo source.toList before front tokens)
      (wrong : Diagnosis front fault lexeme lost place) :
      (before ++ place).length + 1 < UInt32.size := by
    have split := congrArg List.length leads.split
    have within := wrong.place_prefix.length_le
    simp only [String.length_toList, List.length_append] at split ⊢
    omega
  refine ⟨⟨?_, ?_⟩, Diagnosis.unique⟩
  · intro rejected
    rcases exists_layout source.toList with
      ⟨tokens, laid⟩ | ⟨before, front, tokens, fault, lexeme, lost, place, leads, wrong⟩
    · rw [tokenize_of_isLayout laid] at rejected
      cases rejected
    · rw [tokenize_of_leadsTo leads wrong] at rejected
      cases rejected
      refine ⟨before, front, tokens, lost, place, leads, ?_, ?_⟩
      · simpa using wrong
      · exact Position.marks_behind (counted leads wrong)
  · rintro ⟨before, front, tokens, lost, place, leads, wrong, marks⟩
    rw [tokenize_of_leadsTo leads wrong]
    obtain ⟨fault, position, lexeme⟩ := e
    simp [← (Position.marks_iff (counted leads wrong)).mp marks]

/-- The second point stands in the second line, behind three characters. -/
theorem tokenize_eq_error_iff_behind_line :
    "x\n1.5.2".length + 1 < UInt32.size ∧
    LeadsTo "x\n1.5.2".toList ['x', '\n'] ['1', '.', '5', '.', '2'] [⟨.identifier, "x"⟩] ∧
    tokenize "x\n1.5.2" none = .error ⟨.malformedNumber .tooManyPoints, ⟨2, 4⟩, "1.5."⟩ := by
  have small : "x\n1.5.2".length + 1 < UInt32.size := by decide
  have leads : LeadsTo "x\n1.5.2".toList ['x', '\n'] ['1', '.', '5', '.', '2']
      [⟨.identifier, "x"⟩] := by
    have formed : WellFormed ⟨.identifier, "x"⟩ := ⟨⟨'x', [], rfl, rfl, by simp⟩, by decide⟩
    have laid : Layout ['\n', '1', '.', '5', '.', '2'] [⟨.identifier, "x"⟩]
        ([] ++ "x".toList ++ ['\n', '1', '.', '5', '.', '2']) :=
      .cons .nil formed (fun c next => by cases next; exact ⟨rfl, by decide⟩) .nil
    exact ⟨rfl, ['\n'], .blank rfl .nil, laid⟩
  have digit (c : Char) (is : isDigit c = true) : ∀ d ∈ [c], isDigit d = true := by simpa using is
  have wrong : Diagnosis ['1', '.', '5', '.', '2'] (.malformedNumber .tooManyPoints)
      "1.5.".toList [] ['1', '.', '5'] :=
    .tooManyPoints (digit '1' rfl) (digit '5' rfl)
  have counted : (Position.mk 2 4).Marks (['x', '\n'] ++ ['1', '.', '5']) := ⟨by decide, by decide⟩
  exact ⟨small, leads, (tokenize_eq_error_iff small none _).1.mpr
    ⟨_, _, _, _, _, leads, wrong, counted⟩⟩

end Lexical
