import Lexical.Proofs.Soundness
import Lexical.Proofs.Streams
import Mathlib.Data.List.Basic

/-! The scanner never stands still.

* `Turn.Loops`: the steps of a call, which come to an end: there are hardly more than characters,
  because only a point is read twice;
* `Session.offset_add_item_le`: a call that reports a token or an error has read on;
* `Scanner.Exhausted`: once the end is reported nothing will ever change again. -/
namespace Lexical

open Grammar
open Scanner (Between)

/-! ## The loop of a call -/

/-- The steps that the loop of a call takes from `t` on, up to the one that is done. -/
inductive Turn.Loops : Turn → List Step → Prop
  | done {t : Turn} {call : Call} (ends : t.step = .done call) : Loops t [.done call]
  | again {t u : Turn} {steps : List Step} (goes : t.step = .again u) (more : Loops u steps) :
      Loops t (.again u :: steps)

/-- The step put a character back: reading empties the slot, so only then is it full at the end, as
`Turn.putsBackOnce` says. -/
def Step.putsBack (step : Step) : Bool := step.scanner.pending.isSome

/-- How many points may still be put back: only one behind digits is, and the reading of digits is
over with it. -/
def Mode.pointsToPutBack : Mode → Nat
  | start | comment | integer => 1
  | word | equals | comparison | fraction => 0

variable {t u : Turn} {steps : List Step}

theorem Move.pointsToPutBack_le {l : Lexeme} {c : Char} {mode next : Mode}
    (goes : (ofMode l c mode).sequel = .goOn next) :
    next.pointsToPutBack ≤ mode.pointsToPutBack ∧ ((ofMode l c mode).use = .putBack →
      next.pointsToPutBack + 1 ≤ mode.pointsToPutBack) := by
  cases mode <;>
    simp only [ofMode, start, comment, word, equals, comparison, integer, fraction] at goes ⊢ <;>
    grind [Mode.pointsToPutBack]

/-- A turn that goes on has read a character for good, or has put back one of the points that may
be put back. -/
theorem Turn.pays_of_again (goes : t.step = .again u) :
    u.mode.pointsToPutBack + t.step.putsBack.toNat ≤ t.mode.pointsToPutBack ∧
      u.scanner.remaining + 1 ≤ t.scanner.remaining + t.step.putsBack.toNat := by
  rw [goes]
  unfold step at goes
  split at goes
  · cases goes
  · next p s read =>
    have less := Scanner.remaining_of_advance read
    have slot := (Scanner.advance_eq_some read).2.2
    unfold move at goes
    split at goes
    · next mode sequel =>
      obtain ⟨points, fewer⟩ := Move.pointsToPutBack_le sequel
      cases goes
      cases used : (Move.ofMode t.lexeme p.char t.mode).use with
      | skip | keep =>
        have kept : s.pending.isSome.toNat = 0 := by rw [slot]; rfl
        simp only [Step.putsBack, Step.scanner, use, kept]
        omega
      | putBack =>
        have back := Scanner.remaining_unread (p := p) slot
        have full : (s.unread p).pending.isSome.toNat = 1 := rfl
        have fewer := fewer used
        simp only [Step.putsBack, Step.scanner, use, full]
        omega
    · cases goes
    · cases goes

theorem Turn.Loops.bounds (h : t.Loops steps) :
    steps.length ≤ t.scanner.remaining + t.mode.pointsToPutBack + 1 ∧
      steps.countP Step.putsBack ≤ t.mode.pointsToPutBack + 1 := by
  induction h with
  | @done t call ends =>
    have one := List.countP_le_length (p := Step.putsBack) (l := [Step.done call])
    simp only [List.length_singleton] at one ⊢
    omega
  | @again t u steps goes _ ih =>
    have pays := Turn.pays_of_again goes
    have counted : (if (Step.again u).putsBack then 1 else 0) = (Step.again u).putsBack.toNat := by
      cases (Step.again u).putsBack <;> rfl
    rw [goes] at pays
    rw [List.length_cons, List.countP_cons, counted]
    omega

/-- The loop ends, with what the call gives. -/
theorem Turn.exists_loops (t : Turn) :
    ∃ steps, t.Loops steps ∧ steps.getLast? = some (.done t.run) := by
  fun_induction run t with
  | case1 t u goes ih =>
    obtain ⟨steps, more, last⟩ := ih
    exact ⟨_, .again goes more, by rw [List.getLast?_cons, last]; rfl⟩
  | case2 t call ends => exact ⟨_, .done ends, rfl⟩

/-! ## Progress and the end -/

variable {source : String} {file : Option String} {s : Scanner} {answers : List Answer}
  {read ahead text : List Char}

/-- A call at the end finds nothing and moves nothing. -/
theorem Scanner.Between.nextToken_at_end (h : s.Between text []) :
    s.nextToken.outcome = .endOfSource ∧ s.nextToken.scanner.Between text [] := by
  obtain ⟨ended, between⟩ := h.nextToken_of_finalTrivia (.inl .nil)
  exact ⟨ended, by simpa using between⟩

/-- No request leads away from the end. -/
theorem Scanner.Onward.between_end {u : Scanner} (h : s.Onward u) (start : s.Between text []) :
    u.Between text [] := by
  induction h with
  | here => exact start
  | nextToken _ ih => exact ih.nextToken_at_end.2
  | @next u _ ih =>
    cases done : u.finished with
    | true => rwa [next_of_finished done]
    | false =>
      rw [next_of_open done]
      exact ih.nextToken_at_end.2

/-- All of `text` was read, and each call says so. -/
structure Scanner.Exhausted (text : List Char) (s : Scanner) : Prop where
  atEnd : s.atEnd = true
  position : s.position.Marks text
  ended : s.nextToken.outcome = .endOfSource

theorem Scanner.Between.exhausted (h : s.Between text []) (small : text.length + 1 < UInt32.size) :
    s.Exhausted text where
  atEnd := atEnd_iff.mpr h.ahead_eq
  position := h.position ▸ Position.marks_behind small
  ended := h.nextToken_at_end.1

/-- The call that reports the end has read the whole source. -/
theorem Session.between_of_endOfSource (h : Session source file answers s)
    (ended : s.nextToken.outcome = .endOfSource) :
    s.nextToken.scanner.Between source.toList [] := by
  have final := h.between.nextToken_eq_endOfSource_iff.mp ended
  have between := (h.between.nextToken_of_finalTrivia final).2
  rwa [List.take_append_drop] at between

/-! ## How much is reported -/

/-- A token or an error takes a character from what remains. -/
theorem Scanner.Between.remaining_add_item_le (h : s.Between read ahead) :
    s.nextToken.scanner.remaining + s.nextToken.outcome.item?.toList.length ≤ s.remaining := by
  cases reports : s.nextToken.outcome.item? with
  | some item =>
    have less : s.nextToken.scanner.remaining < s.remaining := by
      apply remaining_nextToken_lt
      intro ended
      rw [ended] at reports
      cases reports
    rw [Option.toList_some, List.length_singleton]
    omega
  | none =>
    obtain ⟨taken, rest, split, between⟩ := h.nextToken_moves
    rw [h.remaining, between.remaining, split]
    simp

theorem Scanner.Between.items_reports_le (h : s.Between read ahead) (n : Nat) :
    ((s.reports n).filterMap Outcome.item?).length ≤ s.remaining := by
  induction n generalizing s read ahead with
  | zero => exact Nat.zero_le _
  | succ n ih =>
    obtain ⟨taken, rest, -, between⟩ := h.nextToken_moves
    have now := h.remaining_add_item_le
    have later := ih between
    rw [List.filterMap_eq_flatMap_toList] at later ⊢
    rw [reports_succ, List.flatMap_cons, List.length_append]
    omega

theorem Scanner.endOfSource_mem_reports (s : Scanner) {n : Nat} (enough : s.remaining < n) :
    .endOfSource ∈ s.reports n := by
  induction n generalizing s with
  | zero => omega
  | succ n ih =>
    rw [reports_succ]
    by_cases ended : s.nextToken.outcome = .endOfSource
    · rw [ended]
      exact List.mem_cons_self
    · have less := remaining_nextToken_lt ended
      exact List.mem_cons_of_mem _ (ih _ (by omega))

theorem Session.offset_add_remaining (h : Session source file answers s) :
    s.offset + s.remaining = source.length := by
  have between := h.between
  have size := congrArg List.length between.text
  rw [between.offset, between.remaining, ← List.length_append, List.take_append_drop,
    String.length_toList]

/-- A call that reports a token or an error has read on. -/
theorem Session.offset_add_item_le (h : Session source file answers s) :
    s.offset + s.nextToken.outcome.item?.toList.length ≤ s.nextToken.scanner.offset := by
  have taken := h.between.remaining_add_item_le
  have before := h.offset_add_remaining
  have after := h.nextToken.offset_add_remaining
  omega

/-- There are no more items among the answers than characters read. -/
theorem Session.items_le (h : Session source file answers s) :
    (answers.filterMap Answer.item?).length ≤ s.offset := by
  have one (answers : List Answer) (answer : Answer) :
      ((answers ++ [answer]).filterMap Answer.item?).length =
        (answers.filterMap Answer.item?).length + answer.item?.toList.length := by
    rw [List.filterMap_append, List.length_append, List.filterMap_eq_flatMap_toList _ [answer],
      List.flatMap_singleton]
  induction h with
  | opened => exact Nat.zero_le _
  | nextToken session ih =>
    have taken := session.offset_add_item_le
    rw [one, Answer.item?]
    omega
  | @next answers s session ih =>
    rw [one, Answer.item?]
    cases done : s.finished with
    | true =>
      rw [Scanner.next_of_finished done]
      exact ih
    | false =>
      have taken := session.offset_add_item_le
      rw [Scanner.next_of_open done]
      change _ + s.nextToken.outcome.item?.toList.length ≤ s.nextToken.scanner.offset
      omega

/-- **The scanner never stands still.** In every state that a session leaves, the loop of the next
call ends: it takes one step for each character, one more for a point that is read twice and one to
see the end, and no more than two of its steps put a character back. A call that reports a token or
an error has read on. Any other says that only trivia were left, and from then on nothing changes,
whatever is asked. So there are no more tokens and errors than characters, before the end of the
source is reported and altogether, and a source that was read to its end remains so. -/
theorem calls_make_progress (small : source.length + 1 < UInt32.size)
    (h : Session source file answers s) :
    (∃ steps, (Turn.begin s).Loops steps ∧ steps.getLast? = some (.done s.nextToken) ∧
      steps.length ≤ s.remaining + 2 ∧ steps.countP Step.putsBack ≤ 2) ∧
    (s.nextToken.outcome ≠ .endOfSource → s.offset < s.nextToken.scanner.offset) ∧
    (s.nextToken.outcome = .endOfSource ↔ FinalTrivia (source.toList.drop s.offset)) ∧
    (s.nextToken.outcome = .endOfSource → ∀ u, s.nextToken.scanner.Onward u →
      u.Exhausted source.toList ∧ u.position = s.nextToken.scanner.position) ∧
    (∀ n, (answers.filterMap Answer.item?).length +
      ((s.reports n).filterMap Outcome.item?).length ≤ source.length) ∧
    (∀ n, s.remaining < n → .endOfSource ∈ s.reports n) ∧
    (s.atEnd = true → ∀ u, s.Onward u → u.atEnd = true) := by
  have counted := h.offset_add_remaining
  rw [← String.length_toList] at small
  refine ⟨?_, ?_, h.between.nextToken_eq_endOfSource_iff, ?_, ?_, ?_, ?_⟩
  · obtain ⟨steps, loops, last⟩ := (Turn.begin s).exists_loops
    obtain ⟨size, back⟩ := loops.bounds
    exact ⟨steps, loops, last, size, back⟩
  · intro reports
    have less := Scanner.remaining_nextToken_lt reports
    have later := h.nextToken.offset_add_remaining
    omega
  · intro ended u onward
    have between := h.between_of_endOfSource ended
    have same := onward.between_end between
    exact ⟨same.exhausted small, by rw [same.position, between.position]⟩
  · intro n
    have before := h.items_le
    have after := h.between.items_reports_le n
    omega
  · exact fun n enough => s.endOfSource_mem_reports enough
  · intro atEnd u onward
    have between := h.between
    rw [← between.ahead_eq, Scanner.atEnd_iff.mp atEnd] at between
    exact Scanner.atEnd_iff.mpr (onward.between_end between).ahead_eq

/-- Behind an error, the call for the number puts back its point and the blank behind it. The comment
after that is not closed. -/
theorem calls_make_progress_behind_error :
    let s := (Scanner.ofString "? 7.5 #" none).nextToken.scanner
    let t := s.nextToken.scanner
    let stray : ScanError := ⟨.invalidCharacter '?', ⟨1, 1⟩, ""⟩
    "? 7.5 #".length + 1 < UInt32.size ∧ Session "? 7.5 #" none [.report (.failure stray)] s ∧
    s.offset = 1 ∧ s.nextToken.outcome = .token ⟨.number, "7.5"⟩ ∧ s.offset < t.offset ∧
    (∃ steps, (Turn.begin s).Loops steps ∧ steps.length ≤ 8 ∧ steps.countP Step.putsBack ≤ 2) ∧
    FinalTrivia ("? 7.5 #".toList.drop t.offset) ∧
    t.nextToken.scanner.nextToken.scanner.Exhausted "? 7.5 #".toList := by
  intro s t stray
  have small : "? 7.5 #".length + 1 < UInt32.size := by decide
  have fails : (Scanner.ofString "? 7.5 #" none).nextToken.outcome = .failure stray := by
    decide +kernel
  have session : Session "? 7.5 #" none [.report (.failure stray)] s := by
    have first : Session "? 7.5 #" none _ s := .nextToken .opened
    rwa [fails] at first
  have number : s.nextToken.outcome = .token ⟨.number, "7.5"⟩ := by decide +kernel
  have ended : t.nextToken.outcome = .endOfSource := by decide +kernel
  have left : s.remaining = 6 := by decide +kernel
  obtain ⟨⟨steps, loops, -, size, back⟩, moves, -⟩ := calls_make_progress small session
  obtain ⟨-, -, final, closed, -⟩ := calls_make_progress small session.nextToken
  rw [left] at size
  exact ⟨small, session, by decide +kernel, number, moves (by simp [number]),
    ⟨steps, loops, size, back⟩, final.mp ended, (closed ended _ (.nextToken .here)).1⟩

end Lexical
