import Lexical.Proofs.Calls
import Lexical.Proofs.Position
import Lexical.Proofs.Session

/-! Where the characters of a source went.

Every character that a session has read was trivia or belongs to one answer, and the text read is
what the answers took, one after the other. -/
namespace Lexical

open Grammar
open Scanner (Between)

/-- The item of an answer, requested as such or reported. -/
def Answer.item? : Answer → Option Item
  | report outcome => outcome.item?
  | draw item => item

/-- What an error took of the text behind `before`: its lexeme, which has a point too many in it,
and any other character that is at fault or ends a number at its point. -/
inductive Spent (before : List Char) : ScanError → List Char → Prop
  | invalidCharacter {c : Char} {p : Position} (marks : p.Marks before) :
      Spent before ⟨.invalidCharacter c, p, ""⟩ [c]
  | malformedIdentifier {c : Char} {p : Position} {lexeme : List Char}
      (marks : p.Marks (before ++ lexeme)) :
      Spent before ⟨.malformedIdentifier c, p, String.ofList lexeme⟩ (lexeme ++ [c])
  | unexpectedCharacter {c : Char} {p : Position} {lexeme : List Char}
      (marks : p.Marks (before ++ lexeme)) :
      Spent before ⟨.malformedNumber (.unexpectedCharacter c), p, String.ofList lexeme⟩
        (lexeme ++ [c])
  | trailingPoint {c : Char} {p : Position} {lexeme : List Char}
      (marks : p.Marks (before ++ lexeme)) (boundary : isDigit c = false ∧ isPoint c = false) :
      Spent before ⟨.malformedNumber .trailingPoint, p, String.ofList lexeme⟩ (lexeme ++ [c])
  | tooManyPoints {p : Position} {number : List Char} (marks : p.Marks (before ++ number)) :
      Spent before ⟨.malformedNumber .tooManyPoints, p, String.ofList (number ++ ['.'])⟩
        (number ++ ['.'])
  | unexpectedEndOfInput {p : Position} {lexeme : List Char}
      (marks : p.Marks (before ++ lexeme)) :
      Spent before ⟨.unexpectedEndOfInput, p, String.ofList lexeme⟩ lexeme

/-- The text that was read when `source` had been given `answers`, answer by answer. Trivia comes
first, and the end of the source closes a comment only if the answer is that nothing is left. A
stream that was ended by an earlier answer takes nothing. -/
inductive Ledger (source : List Char) : List Answer → List Char → Prop
  | opened : Ledger source [] []
  | token {answers : List Answer} {answer : Answer} {read gap : List Char} {t : Token}
      (more : Ledger source answers read) (blank : Trivia gap)
      (gives : answer.item? = some (.ok t)) :
      Ledger source (answers ++ [answer]) (read ++ gap ++ t.text.toList)
  | failure {answers : List Answer} {answer : Answer} {read gap spent : List Char} {e : ScanError}
      (more : Ledger source answers read) (blank : Trivia gap)
      (gives : answer.item? = some (.error e)) (takes : Spent (read ++ gap) e spent)
      (ends : e.fault = .unexpectedEndOfInput → read ++ gap ++ spent = source) :
      Ledger source (answers ++ [answer]) (read ++ gap ++ spent)
  | endOfSource {answers : List Answer} {answer : Answer} {read gap : List Char}
      (more : Ledger source answers read) (blank : FinalTrivia gap) (gives : answer.item? = none)
      (ends : read ++ gap = source) : Ledger source (answers ++ [answer]) (read ++ gap)
  | stopped {answers : List Answer} {read : List Char} (more : Ledger source answers read)
      (ended : ∃ answer ∈ answers, ∀ t, answer.item? ≠ some (.ok t)) :
      Ledger source (answers ++ [.draw none]) read

variable {source : String} {file : Option String} {s : Scanner} {answers : List Answer}
  {text read ahead before cs rest lexeme lost place : List Char} {fault : Fault}

theorem Grammar.Diagnosis.spent (wrong : Diagnosis cs fault lexeme lost place)
    (small : (before ++ place).length + 1 < UInt32.size) :
    Spent before ⟨fault, .behind (before ++ place), String.ofList lexeme⟩ (lexeme ++ lost) := by
  have marks := Position.marks_behind small
  cases wrong with
  | invalidCharacter => exact .invalidCharacter (by simpa using marks)
  | malformedIdentifier => exact .malformedIdentifier marks
  | unexpectedCharacter => exact .unexpectedCharacter marks
  | trailingPoint _ noDigit noPoint => exact .trailingPoint marks ⟨noDigit, noPoint⟩
  | @tooManyPoints whole part =>
    simpa using Spent.tooManyPoints marks
  | unexpectedEndOfInput =>
    rw [List.append_nil]
    exact .unexpectedEndOfInput marks

/-- Only what the end of the source breaks off has nothing behind it. -/
theorem Grammar.Diagnosis.nothing_behind
    (wrong : Diagnosis (lexeme ++ lost ++ rest) .unexpectedEndOfInput lexeme lost place) :
    rest = [] := by
  generalize whole : lexeme ++ lost ++ rest = cs at wrong
  cases wrong
  simpa using whole

/-- What a call reads is entered for the answer that reports it. -/
theorem Ledger.nextToken (small : text.length + 1 < UInt32.size) (split : text = read ++ ahead)
    (between : s.Between read ahead) (more : Ledger text answers read) (answer : Answer)
    (gives : answer.item? = s.nextToken.outcome.item?) :
    Ledger text (answers ++ [answer]) (text.take s.nextToken.scanner.offset) := by
  have upTo {read ahead : List Char} (split : text = read ++ ahead)
      (between : s.nextToken.scanner.Between read ahead) :
      text.take s.nextToken.scanner.offset = read := by rw [split, between.take_offset]
  cases meets ahead with
  | endOfSource final =>
    obtain ⟨outcome, between'⟩ := between.nextToken_of_finalTrivia final
    rw [upTo (by simpa using split) between']
    exact .endOfSource more final (by rw [gives, outcome]; rfl) split.symm
  | @token gap rest t blank fits =>
    obtain ⟨outcome, between'⟩ := between.nextToken_of_fits blank fits
    rw [upTo (by simpa using split) between']
    exact .token more blank (by rw [gives, outcome]; rfl)
  | @fault gap front lexeme lost place fault blank wrong =>
    have counted : (read ++ gap ++ place).length + 1 < UInt32.size := by
      have within := wrong.place_prefix.length_le
      rw [split] at small
      simp only [List.length_append] at small ⊢
      omega
    obtain ⟨outcome, rest, front, between'⟩ := between.nextToken_of_diagnosis blank wrong
    rw [front] at wrong split
    rw [upTo (by simpa using split) between']
    refine .failure more blank (by rw [gives, outcome]; rfl) (wrong.spent counted) ?_
    rintro rfl
    simp [split, wrong.nothing_behind]

/-- Every item of a session was reported by a call. -/
theorem Session.exists_call {answer : Answer} {item : Item} (h : Session source file answers s)
    (given : answer ∈ answers) (is : answer.item? = some item) :
    ∃ t, Reachable source file t ∧ t.nextToken.outcome.item? = some item := by
  induction h with
  | opened => cases given
  | @nextToken answers s session ih =>
    rcases List.mem_append.mp given with given | last
    · exact ih given
    · cases List.mem_singleton.mp last
      exact ⟨s, ⟨answers, session⟩, is⟩
  | @next answers s session ih =>
    rcases List.mem_append.mp given with given | last
    · exact ih given
    · cases List.mem_singleton.mp last
      cases done : s.finished with
      | true =>
        rw [Scanner.next_of_finished done] at is
        cases is
      | false =>
        rw [Scanner.next_of_open done] at is
        exact ⟨s, ⟨answers, session⟩, is⟩

/-- A stream is over only because of an answer. -/
theorem Session.over_of_finished (h : Session source file answers s) (done : s.finished = true) :
    ∃ answer ∈ answers, ∀ t, answer.item? ≠ some (.ok t) := by
  have ends {s : Scanner} {answer : Answer} (gives : answer.item? = s.nextToken.outcome.item?)
      (going : s.finished = false) (done : s.nextToken.scanner.finished = true) :
      ∀ t, answer.item? ≠ some (.ok t) := by
    intro t token
    rw [Scanner.finished_nextToken, going, Bool.false_or] at done
    cases outcome : s.nextToken.outcome <;> simp_all [Outcome.item?, Outcome.endsStream]
  induction h with
  | opened => cases done
  | @nextToken answers s _ ih =>
    cases going : s.finished with
    | true =>
      obtain ⟨answer, earlier, ended⟩ := ih going
      exact ⟨answer, by simp [earlier], ended⟩
    | false => exact ⟨_, List.mem_concat_self, ends rfl going done⟩
  | @next answers s _ ih =>
    cases going : s.finished with
    | true =>
      obtain ⟨answer, earlier, ended⟩ := ih going
      exact ⟨answer, by simp [earlier], ended⟩
    | false =>
      rw [Scanner.next_of_open going] at done ⊢
      exact ⟨_, List.mem_concat_self, ends rfl going done⟩

/-- **Nothing is lost and nothing is read twice.** In every session, with errors and ends among its
answers or not, the text read is the trivia and the lexemes that the answers account for, one after
the other. -/
theorem session_reads_ledger (small : source.length + 1 < UInt32.size)
    (h : Session source file answers s) :
    Ledger source.toList answers (source.toList.take s.offset) := by
  rw [← String.length_toList] at small
  have split (s : Scanner) :
      source.toList = source.toList.take s.offset ++ source.toList.drop s.offset :=
    (List.take_append_drop ..).symm
  induction h with
  | opened => exact .opened
  | @nextToken answers s session ih =>
    exact ih.nextToken small (split s) session.between (.report s.nextToken.outcome) rfl
  | @next answers s session ih =>
    cases done : s.finished with
    | true =>
      rw [Scanner.next_of_finished done]
      exact .stopped ih (session.over_of_finished done)
    | false =>
      rw [Scanner.next_of_open done]
      exact ih.nextToken small (split s) session.between (.draw s.nextToken.outcome.item?) rfl

/-- The error takes the end of the line, so the comment begins what the second answer reads. -/
theorem session_reads_ledger_behind_error :
    let s := (Scanner.ofString "1.\n#x" none).next.scanner.nextToken.scanner
    let answers : List Answer :=
      [.draw (some (.error ⟨.malformedNumber .trailingPoint, ⟨1, 3⟩, "1."⟩)), .report .endOfSource]
    "1.\n#x".length + 1 < UInt32.size ∧ Session "1.\n#x" none answers s ∧ s.offset = 5 ∧
    Ledger "1.\n#x".toList answers ("1.\n#x".toList.take s.offset) := by
  intro s answers
  have small : "1.\n#x".length + 1 < UInt32.size := by decide
  have fails : (Scanner.ofString "1.\n#x" none).nextToken.outcome =
      .failure ⟨.malformedNumber .trailingPoint, ⟨1, 3⟩, "1."⟩ := by decide +kernel
  have error : (Scanner.ofString "1.\n#x" none).next.item =
      some (.error ⟨.malformedNumber .trailingPoint, ⟨1, 3⟩, "1."⟩) := by
    rw [Scanner.next_of_open rfl, fails]
    rfl
  have last : (Scanner.ofString "1.\n#x" none).next.scanner.nextToken.outcome = .endOfSource := by
    decide +kernel
  have session : Session "1.\n#x" none answers s := by
    have begins : Session "1.\n#x" none _ s := .nextToken (.next .opened)
    rwa [error, last] at begins
  exact ⟨small, session, by decide +kernel, session_reads_ledger small session⟩

end Lexical
