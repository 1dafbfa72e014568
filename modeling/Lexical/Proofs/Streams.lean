import Lexical.Proofs.Ledger
import Lexical.Proofs.Tokenize

/-! The ways of reading a source to its end.

* `Scanner.drain`: calls until one finds no token;
* `Scanner.collect`: draws until the stream has no item, or an error;
* `Scanner.transcript`: calls until the source ends, past all errors.

Calls and draws share the scanner, and a draw is a call as long as only tokens were found. After
that the stream stays over, while calls go on as if nothing had been. -/
namespace Lexical

namespace Scanner

/-- The tokens that calls find before the first that finds none, or the error that it reports. -/
def drain (s : Scanner) : Except ScanError (List Token) :=
  match _called : s.nextToken.outcome with
  | .token t => s.nextToken.scanner.drain.map (t :: ·)
  | .failure e => .error e
  | .endOfSource => .ok []
termination_by s.remaining
decreasing_by exact remaining_nextToken_lt (by simp [_called])

/-- A draw that gives an item has taken a character. -/
theorem remaining_next_lt {s : Scanner} {item : Item} (h : s.next.item = some item) :
    s.next.scanner.remaining < s.remaining := by
  cases done : s.finished with
  | true =>
    rw [next_of_finished done] at h
    cases h
  | false =>
    rw [next_of_open done] at h ⊢
    apply remaining_nextToken_lt
    intro ends
    rw [ends] at h
    cases h

/-- The tokens that draws give until the stream is over, or the error among them. -/
def collect (s : Scanner) : Except ScanError (List Token) :=
  match _drawn : s.next.item with
  | some (.ok t) => s.next.scanner.collect.map (t :: ·)
  | some (.error e) => .error e
  | none => .ok []
termination_by s.remaining
decreasing_by exact remaining_next_lt _drawn

/-- What calls report, errors and tokens, before one reports the end of the source. -/
def transcript (s : Scanner) : List Item :=
  match _called : s.nextToken.outcome.item? with
  | some item => item :: s.nextToken.scanner.transcript
  | none => []
termination_by s.remaining
decreasing_by
  apply remaining_nextToken_lt
  intro ends
  simp [ends, Outcome.item?] at _called

variable {s : Scanner} {t : Token} {e : ScanError} {item : Item}

theorem drain_of_token (h : s.nextToken.outcome = .token t) :
    s.drain = s.nextToken.scanner.drain.map (t :: ·) := by
  rw [drain]; split <;> simp_all

theorem drain_of_failure (h : s.nextToken.outcome = .failure e) : s.drain = .error e := by
  rw [drain]; split <;> simp_all

theorem drain_of_endOfSource (h : s.nextToken.outcome = .endOfSource) : s.drain = .ok [] := by
  rw [drain]; split <;> simp_all

theorem transcript_of_item (h : s.nextToken.outcome.item? = some item) :
    s.transcript = item :: s.nextToken.scanner.transcript := by
  rw [transcript]; split <;> simp_all

theorem transcript_of_endOfSource (h : s.nextToken.outcome.item? = none) : s.transcript = [] := by
  rw [transcript]; split <;> simp_all

end Scanner

/-! ## The end of the stream -/

/-- The call with the stream closed behind it. -/
def Call.finish (call : Call) : Call := { call with scanner := call.scanner.finish }

/-- The step with the stream closed before the next one. -/
def Step.finish : Step → Step
  | .again t => .again { t with scanner := t.scanner.finish }
  | .done call => .done call.finish

variable {s t : Scanner}

theorem Scanner.advance_finish (s : Scanner) :
    s.finish.advance = s.advance.map (Prod.map id finish) := by
  obtain ⟨source, cursor, place, pending, file, finished⟩ := s
  cases pending with
  | some p => rfl
  | none =>
    simp only [advance, finish, Option.map_map]
    rfl

namespace Turn

theorem step_finish (t : Turn) : { t with scanner := t.scanner.finish }.step = t.step.finish := by
  unfold step
  rw [Scanner.advance_finish]
  cases t.scanner.advance with
  | none =>
    cases lexing : t.mode.isTrivia <;>
      simp [sourceEnded, lexing, Step.finish, Call.finish, fail, Scanner.finish, Scanner.position]
  | some read =>
    obtain ⟨p, s⟩ := read
    simp only [Option.map_some, Prod.map, id, move]
    split <;> cases (Move.ofMode t.lexeme p.char t.mode).use <;> rfl

theorem run_finish (t : Turn) : { t with scanner := t.scanner.finish }.run = t.run.finish := by
  fun_induction run t with
  | case1 t u again ih =>
    have again' := t.step_finish
    rw [again] at again'
    rw [run_of_again again', ih]
  | case2 t call done =>
    have done' := t.step_finish
    rw [done] at done'
    exact run_of_done done'

end Turn

/-- Calls do not ask whether the stream is over. -/
theorem Scanner.nextToken_finish (s : Scanner) : s.finish.nextToken = s.nextToken.finish :=
  (Turn.begin s).run_finish

/-- Requests of either kind lead from `s` to a scanner. -/
inductive Scanner.Onward (s : Scanner) : Scanner → Prop
  | here : Onward s s
  | nextToken {t : Scanner} (h : Onward s t) : Onward s t.nextToken.scanner
  | next {t : Scanner} (h : Onward s t) : Onward s t.next.scanner

/-- No request opens the stream again. -/
theorem Scanner.Onward.finished (h : s.Onward t) (done : s.finished = true) :
    t.finished = true := by
  induction h with
  | here => exact done
  | nextToken _ ih => rw [finished_nextToken, ih, Bool.true_or]
  | next _ ih => rwa [next_of_finished ih]

/-- The answer is a token, and not an error or that there is none. -/
def Answer.IsToken (answer : Answer) : Prop := ∃ t, answer.item? = some (.ok t)

variable {source : String} {file : Option String} {answers before after : List Answer}
  {answer final : Answer} {members : List (List Answer × Scanner)} {item : Option Item}

/-- A call that does not answer a token has closed the stream. -/
theorem Scanner.finished_of_not_token (same : answer.item? = s.nextToken.outcome.item?)
    (final : ¬answer.IsToken) : s.nextToken.scanner.finished = true := by
  rw [finished_nextToken]
  cases outcome : s.nextToken.outcome with
  | token t => exact absurd ⟨t, by rw [same, outcome]; rfl⟩ final
  | failure e => exact Bool.or_true _
  | endOfSource => exact Bool.or_true _

theorem Session.finished_of_final (h : Session source file answers s) (given : answer ∈ answers)
    (final : ¬answer.IsToken) : s.finished = true := by
  induction h with
  | opened => cases given
  | @nextToken answers s _ ih =>
    rcases List.mem_append.mp given with given | last
    · rw [Scanner.finished_nextToken, ih given, Bool.true_or]
    · cases List.mem_singleton.mp last
      exact Scanner.finished_of_not_token rfl final
  | @next answers s _ ih =>
    cases done : s.finished with
    | true => rwa [Scanner.next_of_finished done]
    | false =>
      rcases List.mem_append.mp given with given | last
      · rw [ih given] at done
        cases done
      · cases List.mem_singleton.mp last
        rw [Scanner.next_of_open done] at final ⊢
        exact Scanner.finished_of_not_token rfl final

/-- The stream is open exactly as long as every answer is a token. -/
theorem Session.finished_iff (h : Session source file answers s) :
    s.finished = true ↔ ∃ answer ∈ answers, ¬answer.IsToken := by
  constructor
  · intro done
    simpa [Answer.IsToken] using h.over_of_finished done
  · rintro ⟨answer, given, final⟩
    exact h.finished_of_final given final

/-- The last of some answers is the one given, or is the last of those behind it. -/
theorem behind_of_concat (split : answers ++ [answer] = before ++ final :: after) :
    after = [] ∨ ∃ earlier, after = earlier ++ [answer] ∧ answers = before ++ final :: earlier := by
  rcases List.eq_nil_or_concat after with rfl | ⟨earlier, last, rfl⟩
  · exact .inl rfl
  · rw [List.concat_eq_append, ← List.cons_append, ← List.append_assoc] at split
    obtain ⟨front, same⟩ := List.append_inj' split rfl
    exact .inr ⟨earlier, by rw [List.concat_eq_append, List.singleton_inj.mp same], front⟩

/-- Behind an answer that is no token the stream gives nothing, whatever calls go on to find. -/
theorem Session.draws_behind (h : Session source file answers s)
    (split : answers = before ++ final :: after) (ends : ¬final.IsToken)
    (given : .draw item ∈ after) : item = none := by
  induction h generalizing after with
  | opened => simp at split
  | nextToken _ ih =>
    rcases behind_of_concat split with rfl | ⟨earlier, rfl, front⟩
    · cases given
    · exact ih front (by simpa using given)
  | next session ih =>
    rcases behind_of_concat split with rfl | ⟨earlier, rfl, front⟩
    · cases given
    · rcases List.mem_append.mp given with given | last
      · exact ih front given
      · have done := session.finished_of_final (by simp [front]) ends
        cases List.mem_singleton.mp last
        rw [Scanner.next_of_finished done]

/-! ## The same tokens, or the same error -/

namespace Scanner

/-- As long as the stream is open, enough draws find what calls find. -/
theorem tokens_take (going : s.finished = false) {n : Nat} (enough : s.remaining < n) :
    (s.take n).tokens = s.drain := by
  fun_induction drain s generalizing n with
  | case1 s t outcome ih =>
    have going' : s.nextToken.scanner.finished = false := by
      rw [finished_nextToken, going, outcome, Outcome.endsStream, Bool.or_false]
    have less := remaining_nextToken_lt (s := s) (by simp [outcome])
    obtain ⟨m, rfl⟩ : ∃ m, n = m + 1 := ⟨n - 1, by omega⟩
    rw [← ih going' (n := m) (by omega), Run.tokens, items_take_of_token going outcome]
    exact mapM_tokens_append [t] _
  | case2 s e outcome =>
    obtain ⟨m, rfl⟩ : ∃ m, n = m + 1 := ⟨n - 1, by omega⟩
    rw [Run.tokens, items_take_of_failure going outcome]
    rfl
  | case3 s outcome =>
    obtain ⟨m, rfl⟩ : ∃ m, n = m + 1 := ⟨n - 1, by omega⟩
    rw [Run.tokens, items_take_of_endOfSource going outcome]
    rfl

theorem collect_eq_drain (going : s.finished = false) : s.collect = s.drain := by
  fun_induction drain s with
  | case1 s t outcome ih =>
    have going' : s.nextToken.scanner.finished = false := by
      rw [finished_nextToken, going, outcome, Outcome.endsStream, Bool.or_false]
    rw [← ih going', collect]
    split <;> simp_all [next_of_open going, Outcome.item?]
  | case2 s e outcome =>
    rw [collect]
    split <;> simp_all [next_of_open going, Outcome.item?]
  | case3 s outcome =>
    rw [collect]
    split <;> simp_all [next_of_open going, Outcome.item?]

end Scanner

theorem tokenize_eq_drain (source : String) (file : Option String) :
    tokenize source file = (Scanner.ofString source file).drain :=
  Scanner.tokens_take rfl (Nat.lt_succ_self _)

/-- **A draw is a call until the stream is over.** In every family of clones, a draw is what a call
is as long as the answers to a scanner, and to those it was cloned from, were tokens. From then on
each draw gives nothing and changes nothing, whatever calls are made in between, so an error is the
last item. Calls take no notice of that: those of scanners that differ in nothing else report the
same and leave scanners that differ in nothing else. So all ways of reading a source up to what is
no token give the same. -/
theorem draws_follow_calls (h : Family source file members) (mem : (answers, s) ∈ members) :
    ((∀ answer ∈ answers, answer.IsToken) →
      s.next = ⟨s.nextToken.outcome.item?, s.nextToken.scanner, s.nextToken.events⟩) ∧
    ((∃ answer ∈ answers, ¬answer.IsToken) → ∀ t, s.Onward t → t.next = ⟨none, t, []⟩) ∧
    (∀ before final after item, answers = before ++ final :: after → ¬final.IsToken →
      .draw item ∈ after → item = none) ∧
    (∀ t : Scanner, t.finish = s.finish → t.nextToken.finish = s.nextToken.finish) ∧
    tokenize source file = (Scanner.ofString source file).collect ∧
    tokenize source file = (Scanner.ofString source file).drain := by
  have session := h.session _ mem
  refine ⟨?_, ?_, ?_, ?_, ?_, tokenize_eq_drain source file⟩
  · intro tokens
    apply Scanner.next_of_open
    cases done : s.finished with
    | false => rfl
    | true =>
      obtain ⟨answer, given, final⟩ := session.finished_iff.mp done
      exact absurd (tokens answer given) final
  · intro final t onward
    exact Scanner.next_of_finished (onward.finished (session.finished_iff.mpr final))
  · intro before final after item split ends given
    exact session.draws_behind split ends given
  · intro t same
    rw [← t.nextToken_finish, ← s.nextToken_finish, same]
  · rw [Scanner.collect_eq_drain rfl, tokenize_eq_drain]

/-- The first scanner has reported an error; its clone, made before, has not. Behind the error calls
find the second word, and draws find nothing. -/
theorem draws_follow_calls_behind_error :
    let s := (Scanner.ofString "a ?\nb\n" none).next.scanner
    let word (text : String) : Token := ⟨.identifier, text⟩
    let stray : ScanError := ⟨.invalidCharacter '?', ⟨1, 3⟩, ""⟩
    let drawn : Answer := .draw (some (.ok (word "a")))
    let members := [([drawn, .report (.failure stray)], s.nextToken.scanner), ([drawn], s)]
    Family "a ?\nb\n" none members ∧
    s.next.item = some (.error stray) ∧
    s.nextToken.scanner.nextToken.outcome = .token (word "b") ∧
    s.nextToken.scanner.nextToken.scanner.next.item = none ∧
    (Scanner.ofString "a ?\nb\n" none).collect = .error stray := by
  intro s word stray drawn members
  have first : (Scanner.ofString "a ?\nb\n" none).nextToken.outcome = .token (word "a") := by
    decide +kernel
  have error : s.nextToken.outcome = .failure stray := by decide +kernel
  have item : (Scanner.ofString "a ?\nb\n" none).next.item = some (.ok (word "a")) := by
    rw [Scanner.next_of_open rfl, first]
    rfl
  have family : Family "a ?\nb\n" none members := by
    have one : Family "a ?\nb\n" none ([] ++ ([drawn], s) :: []) := by
      have first : Family "a ?\nb\n" none ([] ++ ([], .ofString "a ?\nb\n" none) :: []) :=
        .opened
      have drawn := first.next
      rwa [item] at drawn
    have two : Family "a ?\nb\n" none ([] ++ ([drawn], s) :: [([drawn], s)]) :=
      one.clone (List.mem_singleton_self _)
    have called := two.nextToken
    rwa [error] at called
  have failed : ([drawn, .report (.failure stray)], s.nextToken.scanner) ∈ members :=
    List.mem_cons_self
  have cloned : ([drawn], s) ∈ members := List.mem_cons_of_mem _ List.mem_cons_self
  have token : drawn.IsToken := ⟨word "a", rfl⟩
  have draw := (draws_follow_calls family cloned).1 (by simpa using token)
  obtain ⟨-, closed, -, -, collected, -⟩ := draws_follow_calls family failed
  have final : ¬(Answer.report (.failure stray)).IsToken := by
    rintro ⟨_, is⟩
    cases is
  have nothing := closed ⟨_, List.mem_cons_of_mem _ List.mem_cons_self, final⟩ _ (.nextToken .here)
  have rejected : tokenize "a ?\nb\n" none = .error stray := by
    have second : (Scanner.ofString "a ?\nb\n" none).nextToken.scanner.nextToken.outcome =
        .failure stray := by decide +kernel
    rw [tokenize_eq_drain, Scanner.drain_of_token first, Scanner.drain_of_failure second]
    rfl
  refine ⟨family, ?_, by decide +kernel, ?_, collected.symm.trans rejected⟩
  · rw [draw, error]
    rfl
  · rw [nothing]

end Lexical
