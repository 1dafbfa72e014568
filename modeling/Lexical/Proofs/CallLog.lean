import Lexical.Proofs.Calls
import Lexical.Proofs.Ledger
import Lexical.Proofs.Stages
import Lexical.Scanner.Opened

/-! What a scanner tells the log is a transcript of what it does.

* `Mode.Begun.of_emit`, `Mode.Begun.of_fail`: what the last move of a call does with the character
  that it is about;
* `Stage.tells`: what a call has told is known from its last turn, since the turns before it tell
  nothing but that a point is read again;
* `Logged.transcript`: the log of a session is what its calls told, one after the other. -/
namespace Lexical

open Direct (skip)
open Grammar
open Scanner (Clear Between)

variable {source file : String} {s v : Scanner} {t : Turn} {mode : Mode}
  {use : Use} {kind : TokenKind} {fault : Fault} {call : Call}
  {read ahead before front gap body cs rest : List Char} {c : Char}

/-! ## The last move of a call -/

/-- A character that ends a lexeme is put back if it is not part of it. The token is closed
otherwise. -/
theorem Mode.Begun.of_emit (h : mode.Begun cs)
    (m : Move.ofMode (.ofChars cs) c mode = ⟨use, .emit kind⟩) :
    (mode = .integer → isDigit c = false ∧ c ≠ '.') ∧
    (use = .putBack ∧ ¬IsClosed ⟨kind, String.ofList cs⟩ ∨
      use = .keep ∧ IsClosed ⟨kind, String.ofList (cs ++ [c])⟩) := by
  cases h with
  | word is =>
    simp only [Move.ofMode, Move.word] at m
    split at m
    · cases m
    · split at m
      · cases m
      · cases m
        refine ⟨by simp, .inl ⟨rfl, ?_⟩⟩
        cases word : isReserved (Lexeme.ofChars cs).text <;>
          simp [Grammar.IsClosed, TokenKind.ofWord, word]
  | equals =>
    simp only [Move.ofMode, Move.equals] at m
    split at m
    · cases m
      exact ⟨by simp, .inr ⟨rfl, .inr (.inr ⟨rfl, String.length_ofList⟩)⟩⟩
    · cases m
      exact ⟨by simp, .inl ⟨rfl, by simp [Grammar.IsClosed]⟩⟩
  | comparison is =>
    simp only [Move.ofMode, Move.comparison] at m
    split at m
    · cases m
      exact ⟨by simp, .inr ⟨rfl, .inr (.inr ⟨rfl, String.length_ofList⟩)⟩⟩
    · cases m
      exact ⟨by simp, .inl ⟨rfl, by simp [Grammar.IsClosed]⟩⟩
  | integer is =>
    simp only [Move.ofMode, Move.integer] at m
    split at m
    · cases m
    · next noDigit =>
      split at m
      · cases m
      · next noPoint =>
        split at m <;> cases m
        have follows : isDigit c = false ∧ c ≠ '.' := by
          simpa [isPoint] using And.intro noDigit noPoint
        exact ⟨fun _ => follows, .inl ⟨rfl, by simp [Grammar.IsClosed]⟩⟩
  | fraction =>
    simp only [Move.ofMode, Move.fraction] at m
    split at m
    · cases m
    · split at m
      · split at m <;> cases m
      · split at m <;> cases m
        exact ⟨by simp, .inl ⟨rfl, by simp [Grammar.IsClosed]⟩⟩

/-- A character that is at fault is not put back. -/
theorem Mode.Begun.of_fail (h : mode.Begun cs)
    (m : Move.ofMode (.ofChars cs) c mode = ⟨use, .fail fault⟩) :
    (mode = .integer → isDigit c = false ∧ c ≠ '.') ∧ use ≠ .putBack := by
  cases h with
  | word is =>
    simp only [Move.ofMode, Move.word] at m
    grind
  | equals | comparison | fraction =>
    simp only [Move.ofMode, Move.equals, Move.comparison, Move.fraction] at m
    grind
  | integer is =>
    simp only [Move.ofMode, Move.integer] at m
    grind [isPoint]

/-- Before a lexeme only an operator or parenthesis is a token already. -/
theorem Move.of_start_emit (m : Move.start c = ⟨use, .emit kind⟩) :
    use = .keep ∧ IsClosed ⟨kind, String.ofList [c]⟩ ∧ isSeparator c = false ∧
      isDigit c = false := by
  have passes := CharClass.test_ofChar c
  have solid {k : CharClass} (is : k.test c = true)
      (kept : k = .mathOperator ∨ k = .parenthesis) :
      isSeparator c = false ∧ isDigit c = false := by
    rcases kept with rfl | rfl <;>
      exact ⟨not_separator_of_test is (by simp) (by simp) (by simp),
        CharClass.test_of_other (l := .digit) is (by simp) (by simp) (by simp)⟩
  unfold Move.start at m
  cases k : CharClass.ofChar c <;> simp only [k, CharClass.test] at passes <;> rw [k] at m <;>
    cases m
  case mathOperator => exact ⟨rfl, .inl rfl, solid (k := .mathOperator) passes (.inl rfl)⟩
  case parenthesis => exact ⟨rfl, .inr (.inl rfl), solid (k := .parenthesis) passes (.inr rfl)⟩

theorem Move.of_start_fail (m : Move.start c = ⟨use, .fail fault⟩) :
    use = .skip ∧ isInvalid c = true := by
  have passes := CharClass.test_ofChar c
  unfold Move.start at m
  cases k : CharClass.ofChar c <;> simp only [k, CharClass.test] at passes <;> rw [k] at m <;>
    cases m
  exact ⟨rfl, passes⟩

/-! ## What is told of a report -/

/-- What a call tells of the point behind an integer: it puts the point back, and reads it again.
The text `front`, which the call reads, lies behind `before`. -/
inductive RereadsPoint (before : List Char) : List Char → List Event → Prop
  | point {digits more : List Char} {p : Position} (is : IsInteger digits)
      (marks : p.Marks (before ++ digits)) :
      RereadsPoint before (digits ++ '.' :: more) [.putBack ⟨'.', p⟩]
  | none {front : List Char}
      (other : ∀ digits more, IsInteger digits → front ≠ digits ++ '.' :: more) :
      RereadsPoint before front []

/-- What a call tells of its report, if it leaves the scanner over `text` as `after`. -/
inductive TellsReport (file : String) (text : List Char) (after : Scanner) :
    Outcome → List Event → Prop
  /-- The character behind the token has ended it, and was put back. -/
  | overread {t : Token} {before : List Char} {c : Char} (waits : ¬IsClosed t)
      (read : text.take after.offset = before ++ t.text.toList)
      (next : text[after.offset]? = some c)
      (marks : after.position.Marks (before ++ t.text.toList)) :
      TellsReport file text after (.token t)
        [.putBack ⟨c, after.position⟩, .found after.position t]
  /-- The last character of the token has ended it. -/
  | closed {t : Token} {before : List Char} {p : Position} (closed : IsClosed t)
      (read : text.take after.offset = before ++ t.text.toList)
      (marks : p.Marks (before ++ t.text.toList.dropLast)) :
      TellsReport file text after (.token t) [.found p t]
  | failure {e : ScanError} : TellsReport file text after (.failure e) [.failed file e]
  | endOfSource : TellsReport file text after .endOfSource []

namespace TellsReport

variable {text : List Char} {after : Scanner}

theorem of_putBack (small : text.length + 1 < UInt32.size)
    (split : text = before ++ cs ++ c :: rest) (h : after.Between (before ++ cs) (c :: rest))
    (waits : ¬IsClosed ⟨kind, String.ofList cs⟩) :
    TellsReport file text after (.token ⟨kind, String.ofList cs⟩)
      [.putBack ⟨c, .behind (before ++ cs)⟩,
        .found (.behind (before ++ cs)) ⟨kind, String.ofList cs⟩] := by
  have counted : (before ++ cs).length + 1 < UInt32.size := by
    simp only [split, List.length_append] at small ⊢
    omega
  have read : text.take after.offset = before ++ (String.ofList cs).toList := by
    rw [split, h.take_offset, String.toList_ofList]
  have next : text[after.offset]? = some c := by
    rw [split, h.offset]
    simp
  rw [← h.position]
  refine .overread waits read next ?_
  rw [String.toList_ofList, h.position]
  exact Position.marks_behind counted

theorem of_keep (small : text.length + 1 < UInt32.size)
    (split : text = before ++ (cs ++ [c]) ++ rest) (h : after.Between (before ++ (cs ++ [c])) rest)
    (closed : IsClosed ⟨kind, String.ofList (cs ++ [c])⟩) :
    TellsReport file text after (.token ⟨kind, String.ofList (cs ++ [c])⟩)
      [.found (.behind (before ++ cs)) ⟨kind, String.ofList (cs ++ [c])⟩] := by
  have counted : (before ++ cs).length + 1 < UInt32.size := by
    simp only [split, List.length_append] at small ⊢
    omega
  have read : text.take after.offset = before ++ (String.ofList (cs ++ [c])).toList := by
    rw [split, h.take_offset, String.toList_ofList]
  refine .closed closed read ?_
  rw [String.toList_ofList, List.dropLast_concat]
  exact Position.marks_behind counted

end TellsReport

/-- What the call has told the log is a transcript of what it did between `read` and `ahead`. -/
def Call.Tells (call : Call) (file : String) (read ahead : List Char) : Prop :=
  ∃ gap first verdict, Direct.Gap gap ahead ∧ call.events = first ++ verdict ∧
    RereadsPoint (read ++ gap) (skip ahead) first ∧
    TellsReport file (read ++ ahead) call.scanner call.outcome verdict

theorem rereadsPoint (small : (before ++ front).length + 1 < UInt32.size) :
    RereadsPoint before front (rereadPoint before front) := by
  by_cases point : ∃ digits more, IsInteger digits ∧ front = digits ++ '.' :: more
  · obtain ⟨digits, more, is, rfl⟩ := point
    rw [rereadPoint_of_point is]
    refine .point is (Position.marks_behind ?_)
    simp only [List.length_append] at small ⊢
    omega
  · have none : rereadPoint before front = [] := by
      unfold rereadPoint
      split
      · next d ds more digits rest =>
        refine absurd ⟨d :: ds, more, ⟨by simp, ?_⟩, ?_⟩ point
        · rw [← digits]
          exact List.all_eq_true.mp List.all_takeWhile
        · rw [← digits, ← rest, List.takeWhile_append_dropWhile]
      · rfl
    rw [none]
    exact .none fun digits more is split => point ⟨digits, more, is, split⟩

/-- A gap is trivia with something solid behind it. -/
theorem gap_before (split : ahead = gap ++ front) (blank : Trivia gap)
    (stays : skip front = front) : Direct.Gap gap ahead ∧ skip ahead = front := by
  have left : skip ahead = front := by rw [split, Direct.skip_append_of_trivia blank, stays]
  exact ⟨⟨by rw [left, split], .inl blank, fun _ => blank⟩, left⟩

theorem Mode.Begun.skip_append (h : mode.Begun cs) (rest : List Char) :
    skip (cs ++ rest) = cs ++ rest := by
  have solid := h.unended.no_separator
  cases cs with
  | nil => exact absurd rfl h.ne_nil
  | cons c cs =>
    obtain ⟨noBlank, noComment⟩ := Bool.or_eq_false_iff.mp (solid c List.mem_cons_self)
    exact Direct.skip_of_head noBlank noComment

namespace Call.Tells

variable {events verdict : List Event}

theorem of_front (small : (read ++ ahead).length + 1 < UInt32.size) (split : ahead = gap ++ front)
    (blank : Trivia gap) (stays : skip front = front)
    (first : rereadPoint (read ++ gap) front = events) (told : call.events = events ++ verdict)
    (report : TellsReport file (read ++ ahead) call.scanner call.outcome verdict) :
    call.Tells file read ahead := by
  obtain ⟨isGap, left⟩ := gap_before split blank stays
  refine ⟨gap, events, verdict, isGap, told, ?_, report⟩
  rw [left, ← first]
  apply rereadsPoint
  rwa [List.append_assoc, ← split]

theorem of_finalTrivia (final : FinalTrivia ahead) (told : call.events = [])
    (ended : call.outcome = .endOfSource) : call.Tells file read ahead := by
  have nothing := Direct.skip_of_finalTrivia final
  have isGap : Direct.Gap ahead ahead :=
    ⟨by rw [nothing, List.append_nil], final, by simp [nothing]⟩
  refine ⟨ahead, [], [], isGap, told, ?_, ?_⟩
  · rw [nothing]
    exact .none (by simp)
  · rw [ended]
    exact .endOfSource

/-- The source ends before a lexeme is begun, or the first character of one is all of it. -/
theorem of_steps_start (small : (read ++ ahead).length + 1 < UInt32.size)
    (split : ahead = gap ++ rest) (blank : Trivia gap)
    (steps : (Turn.mk s .start .empty []).Steps (read ++ gap) rest (.done call)) :
    call.Tells s.file read ahead := by
  have silent {c : Char} {more : List Char} (noDigit : isDigit c = false) :
      rereadPoint (read ++ gap) ([] ++ c :: more) = [] :=
    rereadPoint_eq_nil (by simp) (by simpa using noDigit) (by simp)
  cases steps with
  | ended =>
    rw [List.append_nil] at split
    exact of_finalTrivia (split ▸ .inl blank) rfl rfl
  | @emit c more v use kind clear m =>
    obtain ⟨rfl, closed, solid, noDigit⟩ := Move.of_start_emit m
    obtain ⟨noBlank, noComment⟩ := Bool.or_eq_false_iff.mp solid
    have text : Lexeme.empty.push c = .ofChars ([] ++ [c]) := Lexeme.push_ofChars [] c
    have within : v.Between (read ++ gap ++ ([] ++ [c])) more := .clear (by simpa using clear)
    have report : TellsReport s.file (read ++ ahead) v (.token ⟨kind, String.ofList ([] ++ [c])⟩)
        [.found (.behind (read ++ gap ++ [])) ⟨kind, String.ofList ([] ++ [c])⟩] :=
      .of_keep small (by simp [split]) within closed
    rw [List.append_nil] at report
    have stays : skip (c :: more) = c :: more := Direct.skip_of_head noBlank noComment
    refine of_front small split blank stays (silent noDigit) rfl ?_
    simp only [Turn.emit, Turn.use, text]
    exact report
  | @fail c more v use fault clear same m =>
    obtain ⟨rfl, invalid⟩ := Move.of_start_fail m
    obtain ⟨noBlank, noComment⟩ :=
      Bool.or_eq_false_iff.mp (not_separator_of_isInvalid invalid)
    have noDigit : isDigit c = false :=
      CharClass.test_of_other (k := .invalid) (l := .digit) invalid (by simp) (by simp) (by simp)
    have stays : skip (c :: more) = c :: more := Direct.skip_of_head noBlank noComment
    refine of_front small split blank stays (silent noDigit) rfl ?_
    simp only [Turn.fail, Turn.use, same]
    exact .failure

/-- The end of a comment does not end the call, that of the source does. -/
theorem of_steps_comment (split : ahead = gap ++ (body ++ rest)) (blank : Trivia gap)
    (is : IsComment body)
    (steps : (Turn.mk s .comment .empty []).Steps (read ++ gap ++ body) rest (.done call)) :
    call.Tells s.file read ahead := by
  have goesOn (c : Char) : ∃ next, Move.comment c = ⟨.skip, .goOn next⟩ := by
    unfold Move.comment
    split <;> exact ⟨_, rfl⟩
  cases steps with
  | ended =>
    rw [List.append_nil] at split
    exact of_finalTrivia (split ▸ .inr ⟨gap, body, rfl, blank, is⟩) rfl rfl
  | @emit c _ _ _ _ _ m | @fail c _ _ _ _ _ _ m =>
    obtain ⟨next, goes⟩ := goesOn c
    cases goes.symm.trans m

theorem of_steps_lexeme (small : (read ++ ahead).length + 1 < UInt32.size)
    (split : ahead = gap ++ (cs ++ rest)) (blank : Trivia gap) (begun : mode.Begun cs)
    (steps : (Turn.mk s mode (.ofChars cs) (rereadPoint (read ++ gap) cs)).Steps
      (read ++ gap ++ cs) rest (.done call)) :
    call.Tells s.file read ahead := by
  -- An integer that ends here has no point behind it, so what it has told of one stays.
  have of_report {verdict : List Event}
      (stop : mode = .integer → ∀ c ∈ rest.head?, isDigit c = false ∧ c ≠ '.')
      (told : call.events = rereadPoint (read ++ gap) cs ++ verdict)
      (report : TellsReport s.file (read ++ ahead) call.scanner call.outcome verdict) :
      call.Tells s.file read ahead :=
    of_front small split blank (begun.skip_append rest) (begun.rereadPoint_append stop) told report
  cases steps with
  | ended =>
    have ended : (Turn.mk s mode (.ofChars cs) (rereadPoint (read ++ gap) cs)).sourceEnded =
        (Turn.mk s mode (.ofChars cs) (rereadPoint (read ++ gap) cs)).fail .unexpectedEndOfInput
          s.position := by simp [Turn.sourceEnded, begun.not_isTrivia]
    rw [ended] at of_report ⊢
    exact of_report (by simp) rfl .failure
  | @emit c more v use kind clear m =>
    obtain ⟨stop, ends⟩ := begun.of_emit m
    have stop (is : mode = .integer) : ∀ d ∈ (c :: more).head?, isDigit d = false ∧ d ≠ '.' := by
      simpa using stop is
    rcases ends with ⟨rfl, waits⟩ | ⟨rfl, closed⟩
    · have apart : read ++ ahead = read ++ gap ++ cs ++ c :: more := by simp [split]
      exact of_report stop (List.append_assoc ..) (.of_putBack small apart (.putBack clear) waits)
    · have apart : read ++ ahead = read ++ gap ++ (cs ++ [c]) ++ more := by simp [split]
      have within : v.Between (read ++ gap ++ (cs ++ [c])) more := .clear (by simpa using clear)
      refine of_report stop rfl ?_
      simp only [Turn.emit, Turn.use, Lexeme.push_ofChars]
      exact .of_keep small apart within closed
  | @fail c more v use fault clear same m =>
    obtain ⟨stop, notBack⟩ := begun.of_fail m
    have stop (is : mode = .integer) : ∀ d ∈ (c :: more).head?, isDigit d = false ∧ d ≠ '.' := by
      simpa using stop is
    cases use with
    | putBack => exact absurd rfl notBack
    | skip | keep =>
      refine of_report stop rfl ?_
      simp only [Turn.fail, Turn.use, same]
      exact .failure

end Call.Tells

theorem Stage.tells (small : (read ++ ahead).length + 1 < UInt32.size) (h : Stage read ahead t)
    (ends : t.step = .done call) : call.Tells t.scanner.file read ahead := by
  cases h with
  | blank split blank h =>
    exact Call.Tells.of_steps_start small split blank (Turn.steps (.clear h) ends)
  | comment split blank is h =>
    exact Call.Tells.of_steps_comment split blank is (Turn.steps (.clear h) ends)
  | lexeme split blank begun h =>
    exact Call.Tells.of_steps_lexeme small split blank begun (Turn.steps (.clear h) ends)
  | point split blank is h =>
    -- The point that was put back is kept, so this is not the last turn.
    cases Turn.steps (.putBack h) ends with
    | emit _ m | fail _ _ m =>
      rw [Move.ofMode_point is.2] at m
      cases m

/-! ## Calls -/

/-- A turn leaves the name of the source. -/
theorem Turn.file_step (t : Turn) : t.step.scanner.file = t.scanner.file := by
  cases read : t.scanner.advance with
  | none =>
    simp only [step, read, sourceEnded]
    split <;> rfl
  | some found =>
    obtain ⟨p, v⟩ := found
    have same := (Scanner.frame_of_advance read).1
    simp only [step, read, move]
    cases (Move.ofMode t.lexeme p.char t.mode).use <;> split <;> exact same

theorem TurnOf.file_eq (h : TurnOf s t) : t.scanner.file = s.file := by
  induction h with
  | begin => rfl
  | @again t u _ goes ih =>
    have same := t.file_step
    rw [goes, ih] at same
    exact same

/-- One turn of a call is the last. -/
theorem TurnOf.exists_last (h : TurnOf s t) : ∃ u, TurnOf s u ∧ u.step = .done t.run := by
  fun_induction Turn.run t with
  | case1 t u goes ih => exact ih (h.again goes)
  | case2 t call ends => exact ⟨t, h, ends⟩

theorem Scanner.file_nextToken (s : Scanner) : s.nextToken.scanner.file = s.file := by
  obtain ⟨t, turn, ends⟩ := (TurnOf.begin : TurnOf s _).exists_last
  have same := t.file_step
  rw [ends, turn.file_eq] at same
  exact same

theorem Scanner.Between.nextToken_tells (small : (read ++ ahead).length + 1 < UInt32.size)
    (h : s.Between read ahead) : s.nextToken.Tells s.file read ahead := by
  obtain ⟨t, turn, ends⟩ := (TurnOf.begin : TurnOf s _).exists_last
  rw [← turn.file_eq]
  rcases turn.stage h with rfl | stage
  · have first : s.Between (read ++ []) ahead := by simpa using h
    exact Call.Tells.of_steps_start small rfl .nil (Turn.steps first ends)
  · exact stage.tells small ends

/-! ## Sessions -/

/-- The token or the error that an event is about, if it has been reported. -/
def Event.item? : Event → Option Item
  | .found _ t => some (.ok t)
  | .failed _ e => some (.error e)
  | .read .. | .created .. | .putBack .. => none

/-- The error of an answer. -/
def Answer.error? (answer : Answer) : Option ScanError :=
  answer.item?.bind fun
    | .error e => some e
    | .ok _ => none

/-- The records of events at level `debug`. -/
def debugRecords (events : List Event) : List Log.Record :=
  (events.map Event.record).filter (·.level == .debug)

theorem debugRecords_append (events more : List Event) :
    debugRecords (events ++ more) = debugRecords events ++ debugRecords more := by
  simp [debugRecords]

/-- The record of an error that was met in `file`. -/
def failureRecord (file : String) (e : ScanError) : Log.Record :=
  ⟨.debug, Event.target, file ++ ": " ++ e.message⟩

/-- As `Session`, with all that was told the log since the scanner was made. -/
inductive Logged (source : String) (file : Option String) :
    List Answer → List Event → Scanner → Prop
  | opened : Logged source file [] (Scanner.openString source file).events (.ofString source file)
  | nextToken {answers : List Answer} {events : List Event} {s : Scanner}
      (h : Logged source file answers events s) :
      Logged source file (answers ++ [.report s.nextToken.outcome])
        (events ++ s.nextToken.events) s.nextToken.scanner
  | next {answers : List Answer} {events : List Event} {s : Scanner}
      (h : Logged source file answers events s) :
      Logged source file (answers ++ [.draw s.next.item]) (events ++ s.next.events) s.next.scanner

variable {file : Option String} {answers : List Answer} {answer : Answer} {events more : List Event}

theorem Session.exists_logged (h : Session source file answers s) :
    ∃ events, Logged source file answers events s := by
  induction h with
  | opened => exact ⟨_, .opened⟩
  | nextToken _ ih =>
    obtain ⟨events, logged⟩ := ih
    exact ⟨_, logged.nextToken⟩
  | next _ ih =>
    obtain ⟨events, logged⟩ := ih
    exact ⟨_, logged.next⟩

theorem Logged.session (h : Logged source file answers events s) :
    Session source file answers s := by
  induction h with
  | opened => exact .opened
  | nextToken _ ih => exact ih.nextToken
  | next _ ih => exact ih.next

theorem Session.file_eq (h : Session source file answers s) :
    s.file = file.getD Scanner.defaultFile := by
  induction h with
  | opened => rfl
  | nextToken _ ih => rw [Scanner.file_nextToken, ih]
  | @next answers s _ ih =>
    cases done : s.finished with
    | true => rwa [Scanner.next_of_finished done]
    | false => rw [Scanner.next_of_open done, Scanner.file_nextToken, ih]

theorem Session.tells (small : source.length + 1 < UInt32.size)
    (h : Session source file answers s) :
    s.nextToken.Tells (file.getD Scanner.defaultFile) (source.toList.take s.offset)
      (source.toList.drop s.offset) := by
  rw [← h.file_eq]
  apply h.between.nextToken_tells
  rwa [List.take_append_drop, String.length_toList]

/-- The events tell the tokens and errors among the answers, and at level `debug` they tell nothing
but the errors, behind the records `first`. -/
structure Transcript (file : String) (first : List Log.Record) (answers : List Answer)
    (events : List Event) : Prop where
  items : events.filterMap Event.item? = answers.filterMap Answer.item?
  errors : debugRecords events =
    first ++ (answers.filterMap Answer.error?).map (failureRecord file)

namespace Transcript

variable {file : String} {first : List Log.Record}

theorem of_answer (item : events.filterMap Event.item? = answer.item?.toList)
    (error : debugRecords events = answer.error?.toList.map (failureRecord file)) :
    Transcript file [] [answer] events where
  items := by
    rw [item]
    cases given : answer.item? <;> simp [given]
  errors := by
    rw [error]
    cases given : answer.error? <;> simp [given]

theorem append (told : Transcript file first answers events)
    (rest : Transcript file [] [answer] more) :
    Transcript file first (answers ++ [answer]) (events ++ more) where
  items := by rw [List.filterMap_append, List.filterMap_append, told.items, rest.items]
  errors := by
    rw [debugRecords_append, told.errors, rest.errors, List.filterMap_append, List.map_append,
      List.append_assoc, List.nil_append]

end Transcript

theorem Call.Tells.transcript {file : String} (h : call.Tells file read ahead)
    (gives : answer.item? = call.outcome.item?) : Transcript file [] [answer] call.events := by
  obtain ⟨gap, first, verdict, -, told, point, report⟩ := h
  -- That a point is put back is no item, and it is told at level `trace`.
  have silent : Transcript file [] [] first := by
    generalize skip ahead = front at point
    cases point <;> exact ⟨rfl, rfl⟩
  have decides : Transcript file [] [answer] verdict := by
    generalize call.outcome = outcome at report gives
    apply Transcript.of_answer
    · rw [gives]
      cases report <;> rfl
    · rw [Answer.error?, gives]
      cases report <;> rfl
  rw [told]
  exact silent.append decides

/-- The record of a new scanner. -/
def openingRecord (file : String) (chars : Nat) : Log.Record :=
  ⟨.debug, Event.target, "scanner created for " ++ file ++ " (" ++ toString chars ++ " chars)"⟩

theorem Logged.transcript (small : source.length + 1 < UInt32.size)
    (h : Logged source file answers events s) :
    Transcript (file.getD Scanner.defaultFile)
      [openingRecord (file.getD Scanner.defaultFile) source.length] answers events := by
  induction h with
  | opened =>
    have chars : (Scanner.ofString source file).source.size = source.length := by
      rw [Scanner.ofString, List.size_toArray, String.length_toList]
    refine ⟨rfl, ?_⟩
    rw [← chars]
    rfl
  | nextToken h ih => exact ih.append ((h.session.tells small).transcript rfl)
  | @next answers events s h ih =>
    refine ih.append ?_
    cases done : s.finished with
    | true =>
      rw [Scanner.next_of_finished done]
      exact ⟨rfl, rfl⟩
    | false =>
      rw [Scanner.next_of_open done]
      exact (h.session.tells small).transcript rfl

/-- **The log is a transcript of scanning.** Whatever was asked of a scanner before, its next call
tells that it rereads the point behind an integer, if it reads one, then the character that it puts
back behind a token that waits for its end, and the token with the position of the last character
read, or the error; of the end of the source it tells nothing. So a log holds the tokens and errors
that were answered, in their order, and at level `debug` it holds the errors only, behind the record
of the new scanner. -/
theorem log_transcribes_scanning (small : source.length + 1 < UInt32.size)
    (h : Session source file answers s) :
    s.nextToken.Tells (file.getD Scanner.defaultFile) (source.toList.take s.offset)
      (source.toList.drop s.offset) ∧
    (∃ events, Logged source file answers events s) ∧
    ∀ events, Logged source file answers events s →
      Transcript (file.getD Scanner.defaultFile)
        [openingRecord (file.getD Scanner.defaultFile) source.length] answers events :=
  ⟨h.tells small, h.exists_logged, fun _ logged => logged.transcript small⟩

/-- The point of a number and the blank behind it are put back; the error behind the blank is told
alone. -/
theorem log_transcribes_scanning_behind_number :
    let s := (Scanner.ofString "1.5 @" none).nextToken.scanner
    let answers : List Answer := [.report (.token ⟨.number, "1.5"⟩)]
    let events : List Event := [.created "shell" 5, .putBack ⟨'.', ⟨1, 2⟩⟩,
      .putBack ⟨' ', ⟨1, 4⟩⟩, .found ⟨1, 4⟩ ⟨.number, "1.5"⟩]
    Session "1.5 @" none answers s ∧ s.nextToken.Tells "shell" "1.5".toList " @".toList ∧
    s.nextToken.events = [.failed "shell" ⟨.invalidCharacter '@', ⟨1, 5⟩, ""⟩] ∧
    Logged "1.5 @" none answers events s ∧
    Transcript "shell" [openingRecord "shell" 5] answers events := by
  intro s answers events
  have small : "1.5 @".length + 1 < UInt32.size := by decide
  have reports : (Scanner.ofString "1.5 @" none).nextToken.outcome =
      .token ⟨.number, "1.5"⟩ := by decide +kernel
  have session : Session "1.5 @" none answers s := by
    have first := Session.nextToken (.opened : Session "1.5 @" none [] _)
    rwa [reports] at first
  have logged : Logged "1.5 @" none answers events s := by
    have first := Logged.nextToken (.opened : Logged "1.5 @" none [] _ _)
    rw [reports] at first
    have told : (Scanner.openString "1.5 @" none).events ++
        (Scanner.ofString "1.5 @" none).nextToken.events = events := by decide +kernel
    rwa [told] at first
  obtain ⟨tells, -, transcript⟩ := log_transcribes_scanning small session
  have offset : s.offset = 3 := by decide +kernel
  rw [offset] at tells
  exact ⟨session, tells, by decide +kernel, logged, transcript _ logged⟩

end Lexical
