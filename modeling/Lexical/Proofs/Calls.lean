import Lexical.Proofs.Front
import Lexical.Proofs.Reading

/-! One call, said in terms of the grammar.

Behind the trivia that it skips a call meets a token, a diagnosis or the end of the source, and what
it reports tells which. -/
namespace Lexical

open Direct (Cut skip)
open Grammar
open Scanner (Between)

namespace Direct

variable {cs : List Char}

theorem skip_of_head {c : Char} (blank : isWhitespace c = false)
    (comment : isCommentStart c = false) : skip (c :: cs) = c :: cs := by
  rw [skip, if_neg (by simp [blank]), if_neg (by simp [comment])]

/-- A text is cut at a blank or a comment as if that were an invalid character. -/
theorem skip_of_ofText
    (h : ∀ c, (Cut.ofText cs).verdict = .fault (.invalidCharacter c) → isInvalid c = true) :
    skip cs = cs := by
  cases cs with
  | nil => rw [skip]
  | cons c cs =>
    have other {k : CharClass} (is : k = .whitespace ∨ k = .commentStart) : k.test c = false := by
      cases passes : k.test c with
      | false => rfl
      | true =>
        have cut : (Cut.ofText (c :: cs)).verdict = .fault (.invalidCharacter c) := by
          rcases is with rfl | rfl <;>
            rw [Cut.ofText, CharClass.ofChar_of_test passes (by simp)]
        have invalid := h c cut
        rcases is with rfl | rfl <;>
          simp [isInvalid, CharClass.ofChar_of_test passes (by simp)] at invalid
    exact skip_of_head (other (.inl rfl)) (other (.inr rfl))

end Direct

/-- What a call meets in a text. -/
inductive Meets : List Char → Prop
  | token {gap rest : List Char} {t : Token} (blank : Trivia gap) (fits : Fits t rest) :
      Meets (gap ++ (t.text.toList ++ rest))
  | fault {gap front lexeme lost place : List Char} {fault : Fault} (blank : Trivia gap)
      (wrong : Diagnosis front fault lexeme lost place) : Meets (gap ++ front)
  | endOfSource {gap : List Char} (blank : FinalTrivia gap) : Meets gap

theorem meets (text : List Char) : Meets text := by
  obtain ⟨gap, split, final, closed⟩ := Direct.exists_gap text
  have stop := Direct.head_skip text
  generalize skip text = front at split closed stop
  subst split
  cases front with
  | nil =>
    rw [List.append_nil]
    exact .endOfSource final
  | cons c cs =>
    have blank := closed (by simp)
    rcases exists_front (stop c rfl).1 (stop c rfl).2 cs with
      ⟨t, rest, front, fits⟩ | ⟨fault, lexeme, lost, place, wrong⟩
    · rw [front]
      exact .token blank fits
    · exact .fault blank wrong

variable {s : Scanner} {read gap cs rest lexeme lost place : List Char} {t : Token} {fault : Fault}

theorem Grammar.Fits.skip_eq (h : Fits t rest) :
    skip (t.text.toList ++ rest) = t.text.toList ++ rest := by
  apply Direct.skip_of_ofText
  intro c is
  rw [ofText_of_fits h] at is
  cases is

theorem Grammar.Diagnosis.skip_eq (h : Diagnosis cs fault lexeme lost place) : skip cs = cs := by
  apply Direct.skip_of_ofText
  intro c is
  rw [ofText_of_diagnosis h] at is
  cases is
  cases h with
  | invalidCharacter invalid => exact invalid

/-- The position is that of the place which the diagnosis names. -/
theorem Grammar.Diagnosis.outcome_eq (h : Diagnosis cs fault lexeme lost place)
    (before : List Char) : (Cut.ofText cs).outcome before =
      .failure ⟨fault, .behind (before ++ place), String.ofList lexeme⟩ := by
  rw [ofText_of_diagnosis h]
  cases h with
  | tooManyPoints =>
    rw [Cut.outcome]
    simp [List.dropLast_append_of_ne_nil, List.dropLast_cons_of_ne_nil]
  | _ => simp [Cut.outcome]

namespace Scanner.Between

/-- What a call makes of a text that trivia and a front without blanks make up. -/
theorem nextToken_behind (h : s.Between read (gap ++ cs)) (blank : Trivia gap)
    (stays : skip cs = cs) : s.nextToken.Makes (.ofText cs) (read ++ gap) cs := by
  obtain ⟨gap', split, made⟩ := h.nextToken
  rw [Direct.skip_append_of_trivia blank, stays] at split made
  rwa [← List.append_cancel_right split] at made

theorem nextToken_of_fits (h : s.Between read (gap ++ (t.text.toList ++ rest)))
    (blank : Trivia gap) (fits : Fits t rest) :
    s.nextToken.outcome = .token t ∧
      s.nextToken.scanner.Between (read ++ gap ++ t.text.toList) rest := by
  obtain ⟨outcome, rest', split, between⟩ := h.nextToken_behind blank fits.skip_eq
  rw [ofText_of_fits fits] at outcome split between
  simp only [Cut.token, List.append_nil] at split between
  refine ⟨by simp [outcome, Cut.outcome, Cut.token], ?_⟩
  rwa [← List.append_cancel_left split] at between

theorem nextToken_of_diagnosis (h : s.Between read (gap ++ cs)) (blank : Trivia gap)
    (wrong : Diagnosis cs fault lexeme lost place) :
    s.nextToken.outcome =
        .failure ⟨fault, .behind (read ++ gap ++ place), String.ofList lexeme⟩ ∧
      ∃ rest, cs = lexeme ++ lost ++ rest ∧
        s.nextToken.scanner.Between (read ++ gap ++ (lexeme ++ lost)) rest := by
  obtain ⟨outcome, rest, split, between⟩ := h.nextToken_behind blank wrong.skip_eq
  rw [wrong.outcome_eq] at outcome
  rw [ofText_of_diagnosis wrong] at split between
  exact ⟨outcome, rest, split, between⟩

theorem nextToken_of_finalTrivia (h : s.Between read gap) (blank : FinalTrivia gap) :
    s.nextToken.outcome = .endOfSource ∧ s.nextToken.scanner.Between (read ++ gap) [] := by
  obtain ⟨gap', split, outcome, rest, nothing, between⟩ := h.nextToken
  rw [Direct.skip_of_finalTrivia blank] at split outcome nothing between
  have all : gap = gap' := by simpa using split
  simp only [Cut.ofText, List.nil_append] at nothing between
  rw [← all, ← nothing, List.append_nil] at between
  exact ⟨outcome, between⟩

/-! What a call reports tells what it met. -/

variable {ahead : List Char}

theorem exists_fits (h : s.Between read ahead) (found : s.nextToken.outcome = .token t) :
    ∃ gap rest, ahead = gap ++ (t.text.toList ++ rest) ∧ Trivia gap ∧ Fits t rest := by
  cases meets ahead with
  | endOfSource final =>
    rw [(h.nextToken_of_finalTrivia final).1] at found
    cases found
  | fault blank wrong =>
    rw [(h.nextToken_of_diagnosis blank wrong).1] at found
    cases found
  | @token gap rest u blank fits =>
    rw [(h.nextToken_of_fits blank fits).1] at found
    cases found
    exact ⟨gap, rest, rfl, blank, fits⟩

theorem exists_diagnosis {e : ScanError} (h : s.Between read ahead)
    (fails : s.nextToken.outcome.item? = some (.error e)) :
    ∃ gap front lost place, ahead = gap ++ front ∧
      Diagnosis front e.fault e.lexeme.toList lost place ∧
      e.position = .behind (read ++ gap ++ place) := by
  cases meets ahead with
  | endOfSource final =>
    rw [(h.nextToken_of_finalTrivia final).1] at fails
    cases fails
  | token blank fits =>
    rw [(h.nextToken_of_fits blank fits).1] at fails
    cases fails
  | @fault gap front lexeme lost place fault blank wrong =>
    rw [(h.nextToken_of_diagnosis blank wrong).1] at fails
    cases fails
    exact ⟨gap, front, lost, place, rfl, by simpa using wrong, rfl⟩

theorem nextToken_eq_endOfSource_iff (h : s.Between read ahead) :
    s.nextToken.outcome = .endOfSource ↔ FinalTrivia ahead := by
  constructor
  · intro ended
    cases meets ahead with
    | endOfSource final => exact final
    | token blank fits =>
      rw [(h.nextToken_of_fits blank fits).1] at ended
      cases ended
    | fault blank wrong =>
      rw [(h.nextToken_of_diagnosis blank wrong).1] at ended
      cases ended
  · exact fun final => (h.nextToken_of_finalTrivia final).1

end Scanner.Between

/-- The stream goes on behind a token only. -/
def Outcome.endsStream : Outcome → Bool
  | token _ => false
  | failure _ | endOfSource => true

namespace Turn

theorem finished_of_again {t u : Turn} (h : t.step = .again u) :
    u.scanner.finished = t.scanner.finished := by
  unfold step at h
  split at h
  · cases h
  · next p s hs =>
    have same := (Scanner.frame_of_advance hs).2
    unfold move at h
    split at h
    · cases h
      cases (Move.ofMode t.lexeme p.char t.mode).use <;> exact same
    · cases h
    · cases h

theorem finished_of_done {t : Turn} {call : Call} (h : t.step = .done call) :
    call.scanner.finished = (t.scanner.finished || call.outcome.endsStream) := by
  unfold step at h
  split at h
  · cases h
    unfold sourceEnded
    split <;> simp [fail, Scanner.finish, Outcome.endsStream]
  · next p s hs =>
    have same := (Scanner.frame_of_advance hs).2
    unfold move at h
    split at h
    · cases h
    · cases h
      cases (Move.ofMode t.lexeme p.char t.mode).use <;>
        simp [use, emit, Scanner.unread, same, Outcome.endsStream]
    · cases h
      simp [fail, Scanner.finish, Outcome.endsStream]

end Turn

/-- A call ends the stream unless it finds a token. -/
theorem Scanner.finished_nextToken (s : Scanner) : s.nextToken.scanner.finished =
    (s.finished || s.nextToken.outcome.endsStream) := by
  have run (t : Turn) : t.run.scanner.finished =
      (t.scanner.finished || t.run.outcome.endsStream) := by
    fun_induction Turn.run t with
    | case1 t u h ih => rw [ih, Turn.finished_of_again h]
    | case2 t call h => exact Turn.finished_of_done h
  exact run (Turn.begin s)

end Lexical
