import Lexical.Proofs.Reading
import Lexical.Scanner.Stream

/-! Sessions: requests of either kind, in any order, to one scanner. -/
namespace Lexical

open Scanner (Between)

/-- What a scanner answers: a report to `nextToken`, an item or nothing to `next`. -/
inductive Answer
  | report (outcome : Outcome)
  | draw (item : Option Item)

/-- A scanner was made over `source`, gave `answers` one after the other, errors and ends among
them, and is left as `s`. -/
inductive Session (source : String) (file : Option String) : List Answer → Scanner → Prop
  | opened : Session source file [] (.ofString source file)
  | nextToken {answers : List Answer} {s : Scanner} (h : Session source file answers s) :
      Session source file (answers ++ [.report s.nextToken.outcome]) s.nextToken.scanner
  | next {answers : List Answer} {s : Scanner} (h : Session source file answers s) :
      Session source file (answers ++ [.draw s.next.item]) s.next.scanner

/-- Some session over `source` leaves the scanner as `s`. -/
def Reachable (source : String) (file : Option String) (s : Scanner) : Prop :=
  ∃ answers, Session source file answers s

variable {source : String} {file : Option String} {s : Scanner} {answers : List Answer}
  {read ahead : List Char}

/-- A call moves characters from what is ahead to what was read. -/
theorem Scanner.Between.nextToken_moves (h : s.Between read ahead) :
    ∃ taken rest, ahead = taken ++ rest ∧ s.nextToken.scanner.Between (read ++ taken) rest := by
  obtain ⟨gap, split, made⟩ := h.nextToken
  obtain ⟨rest, front, between⟩ := made.between
  exact ⟨_, rest, by rw [split, front, ← List.append_assoc], by simpa using between⟩

theorem Session.between (h : Session source file answers s) :
    s.Between (source.toList.take s.offset) (source.toList.drop s.offset) := by
  -- The offset of the scanner is known only once the two texts are.
  have places : ∃ read ahead, source.toList = read ++ ahead ∧ s.Between read ahead := by
    induction h with
    | opened => exact ⟨[], _, rfl, Scanner.between_ofString source file⟩
    | nextToken _ ih =>
      obtain ⟨read, ahead, split, between⟩ := ih
      obtain ⟨taken, rest, rfl, between'⟩ := between.nextToken_moves
      exact ⟨read ++ taken, rest, by simpa using split, between'⟩
    | @next answers s _ ih =>
      obtain ⟨read, ahead, split, between⟩ := ih
      cases done : s.finished with
      | true =>
        rw [Scanner.next_of_finished done]
        exact ⟨read, ahead, split, between⟩
      | false =>
        obtain ⟨taken, rest, rfl, between'⟩ := between.nextToken_moves
        rw [Scanner.next_of_open done]
        exact ⟨read ++ taken, rest, by simpa using split, between'⟩
  obtain ⟨read, ahead, split, between⟩ := places
  rwa [split, between.take_offset, between.drop_offset]

/-- What the next `n` calls report, errors and ends among them. -/
def Scanner.reports : Nat → Scanner → List Outcome
  | 0, _ => []
  | n + 1, s => s.nextToken.outcome :: s.nextToken.scanner.reports n

theorem Scanner.reports_succ (n : Nat) (s : Scanner) :
    s.reports (n + 1) = s.nextToken.outcome :: s.nextToken.scanner.reports n := rfl

/-! ## Clones -/

/-- The scanners that stem from one over `source`, each with the answers that it and those it was
cloned from gave. Every request goes to one of them and leaves the others as they are. -/
inductive Family (source : String) (file : Option String) : List (List Answer × Scanner) → Prop
  | opened : Family source file [([], .ofString source file)]
  | nextToken {older younger : List (List Answer × Scanner)} {answers : List Answer} {s : Scanner}
      (h : Family source file (older ++ (answers, s) :: younger)) :
      Family source file (older ++
        (answers ++ [.report s.nextToken.outcome], s.nextToken.scanner) :: younger)
  | next {older younger : List (List Answer × Scanner)} {answers : List Answer} {s : Scanner}
      (h : Family source file (older ++ (answers, s) :: younger)) :
      Family source file (older ++ (answers ++ [.draw s.next.item], s.next.scanner) :: younger)
  | clone {members : List (List Answer × Scanner)} {member : List Answer × Scanner}
      (h : Family source file members) (of : member ∈ members) :
      Family source file (members ++ [member])

/-- A clone cannot be told from a scanner that gave all the answers itself. -/
theorem Family.session {members : List (List Answer × Scanner)}
    (h : Family source file members) :
    ∀ member ∈ members, Session source file member.1 member.2 := by
  induction h with
  | opened => simpa using Session.opened
  | nextToken _ ih =>
    simp only [List.forall_mem_append, List.forall_mem_cons] at ih ⊢
    obtain ⟨older, one, younger⟩ := ih
    exact ⟨older, one.nextToken, younger⟩
  | next _ ih =>
    simp only [List.forall_mem_append, List.forall_mem_cons] at ih ⊢
    obtain ⟨older, one, younger⟩ := ih
    exact ⟨older, one.next, younger⟩
  | clone _ of ih =>
    intro member mem
    rcases List.mem_append.mp mem with mem | mem
    · exact ih member mem
    · cases List.mem_singleton.mp mem
      exact ih _ of

end Lexical
