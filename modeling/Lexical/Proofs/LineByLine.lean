import Lexical.Proofs.Appending
import Lexical.Proofs.Resumption
import Lexical.Proofs.Rewriting
import Mathlib.Data.List.Forall2

/-! Sources scanned line by line.

A line feed ends whatever a call may be about: it closes a comment, stands behind a token, and is
lost with a number that ends in a point. So what comes behind it is scanned as a source of its own.

* `EndsLine`: the text has no line that is not ended;
* `Between.nextToken_of_endsLine`: then what a call reports is settled, or only trivia are left;
* `Between.transcript_append`: so one scanner goes on where another has come to the end;
* `transcript_linesOf`: and every line may have a scanner of its own. -/
namespace Lexical

open Grammar
open Scanner (Between)

/-- The text is empty, or its last line is ended. -/
def EndsLine (text : List Char) : Prop := ∀ c ∈ text.getLast?, c = '\n'

/-- The lines of a text, each with the line feed that ends it. The last line, perhaps empty, has
none. -/
def linesOf (text : List Char) : List (List Char) :=
  match _behind : text.dropWhile (· != '\n') with
  | [] => [text]
  | feed :: rest => (firstLine text ++ [feed]) :: linesOf rest
termination_by text.length
decreasing_by exact Direct.length_lt_of_dropWhile _behind

example : linesOf "a\n\nb".toList = ["a\n".toList, "\n".toList, "b".toList] := by decide +kernel

/-- The position, so many lines further down. -/
def Position.below (p : Position) (lines : Nat) : Position :=
  { p with line := p.line + .ofNat lines }

def ScanError.below (e : ScanError) (lines : Nat) : ScanError :=
  { e with position := e.position.below lines }

/-- The item as it is reported so many lines further down: tokens have no position. -/
def Item.below (item : Item) (lines : Nat) : Item := item.mapError (·.below lines)

@[simp] theorem Item.below_zero (item : Item) : item.below 0 = item := by
  cases item with
  | ok t => rfl
  | error e => simp [below, Except.mapError, ScanError.below, Position.below]

theorem Item.below_below (item : Item) (n m : Nat) :
    (item.below n).below m = item.below (n + m) := by
  cases item with
  | ok t => rfl
  | error e =>
    simp [below, Except.mapError, ScanError.below, Position.below, UInt32.ofNat_add,
      UInt32.add_assoc]

variable {as bs gap read ahead more front lexeme lost place : List Char} {p q : Position}
  {s t u : Scanner} {fault : Fault}

/-! ## Ended lines -/

theorem endsLine_lineFeed (cs : List Char) : EndsLine (cs ++ ['\n']) := by
  intro c last
  simpa using last.symm

theorem EndsLine.of_append (h : EndsLine (as ++ bs)) : EndsLine bs := by
  intro c last
  apply h c
  rw [List.getLast?_append, Option.mem_def.mp last]
  rfl

/-- Only an empty text ends its lines without a line feed. -/
theorem EndsLine.feed_mem (h : EndsLine as) (some : as ≠ []) : '\n' ∈ as := by
  have last : as.getLast some = '\n' := h _ (List.getLast?_eq_some_getLast some)
  exact last ▸ List.getLast_mem some

theorem EndsLine.not_isComment (h : EndsLine as) : ¬IsComment as := by
  intro is
  have some : as ≠ [] := by
    obtain ⟨body, rfl, -⟩ := is
    exact List.cons_ne_nil '#' body
  cases Direct.not_endOfLine_of_isComment is _ (h.feed_mem some)

/-- No comment is left open at the end. -/
theorem EndsLine.trivia (h : EndsLine gap) (final : FinalTrivia gap) : Trivia gap := by
  rcases final with blank | ⟨before, last, rfl, -, is⟩
  · exact blank
  · exact absurd is h.of_append.not_isComment

/-- No lexeme is left open at the end. -/
theorem EndsLine.fault_ne (h : EndsLine front) (wrong : Diagnosis front fault lexeme lost place) :
    fault ≠ .unexpectedEndOfInput := by
  rintro rfl
  have feed := h.feed_mem wrong.ne_nil
  cases wrong with
  | unexpectedEndOfInput waits => cases waits.no_separator _ feed

namespace Scanner.Between

/-- Where the last line is ended, no report says that the source ends within a lexeme. -/
theorem nextToken_of_endsLine (h : s.Between read ahead) (ends : EndsLine ahead) :
    s.nextToken.outcome.isSettled = true ∨
      s.nextToken.outcome = .endOfSource ∧ Trivia ahead := by
  cases meets ahead with
  | endOfSource final => exact .inr ⟨(h.nextToken_of_finalTrivia final).1, ends.trivia final⟩
  | token blank fits =>
    rw [(h.nextToken_of_fits blank fits).1]
    exact .inl rfl
  | fault blank wrong =>
    have settles := ends.of_append.fault_ne wrong
    rw [(h.nextToken_of_diagnosis blank wrong).1]
    exact .inl (by simpa [Outcome.isSettled] using settles)

theorem reports_of_endsLine (h : s.Between read ahead) (ends : EndsLine ahead) (n : Nat) :
    ∀ e, .failure e ∈ s.reports n → e.fault ≠ .unexpectedEndOfInput := by
  induction n generalizing s read ahead with
  | zero => rintro e ⟨⟩
  | succ n ih =>
    intro e mem
    obtain ⟨taken, rest, rfl, between⟩ := h.nextToken_moves
    rcases List.mem_cons.mp mem with now | later
    · rcases h.nextToken_of_endsLine ends with settled | ⟨ended, -⟩
      · rw [← now] at settled
        simpa [Outcome.isSettled] using settled
      · rw [← now] at ended
        cases ended
    · exact ih between ends.of_append e later

end Scanner.Between

/-! ## Transcripts of scanners in step -/

namespace Scanner

/-- Transcripts differ as the reports do. -/
theorem transcript_rel {R : Item → Item → Prop}
    (alike : ∀ n, List.Forall₂ (fun o o' => Option.Rel R o.item? o'.item?)
      (s.reports n) (t.reports n)) : List.Forall₂ R s.transcript t.transcript := by
  fun_induction transcript s generalizing t with
  | case1 s item called ih =>
    have now := (List.forall₂_cons.mp (alike 1)).1
    have later n := (List.forall₂_cons.mp (alike (n + 1))).2
    rw [called] at now
    generalize called' : t.nextToken.outcome.item? = answer at now
    cases now with
    | some related =>
      rw [transcript_of_item called']
      exact .cons related (ih later)
  | case2 s ended =>
    have now := (List.forall₂_cons.mp (alike 1)).1
    rw [ended] at now
    generalize ended' : t.nextToken.outcome.item? = answer at now
    cases now
    rw [transcript_of_endOfSource ended']
    exact .nil

theorem transcript_congr (same : ∀ n, s.reports n = t.reports n) :
    s.transcript = t.transcript := by
  have alike : List.Forall₂ Eq s.transcript t.transcript := by
    apply transcript_rel
    intro n
    rw [same, List.forall₂_same]
    intro o _
    cases o.item? with
    | none => exact .none
    | some item => exact .some rfl
  rwa [List.forall₂_eq_eq_eq] at alike

end Scanner

theorem rewrites_id : Rewrites id where
  nil := rfl
  keeps _ _ _ := rfl
  separates c cs separates := ⟨c, cs, rfl, separates⟩
  skips _ := rfl
  places _ _ _ _ whole := congrArg Position.behind (List.append_cancel_right whole).symm

/-- A scanner may as well begin behind the trivia ahead of it. -/
theorem Scanner.Between.transcript_behind_trivia (h : s.Between read (gap ++ more))
    (h' : t.Between (read ++ gap) more) (blank : Trivia gap) : s.transcript = t.transcript := by
  apply transcript_congr
  apply rewrites_id.reports_eq _ h' h (List.append_assoc ..) (Direct.skip_append_of_trivia blank)
  rintro c cs d ds ⟨⟩
  rfl

/-- Text behind ended lines adds to the transcript what a scanner reports that begins there. -/
theorem Scanner.Between.transcript_append (h : s.Between read ahead)
    (h' : t.Between read (ahead ++ more)) (next : u.Between (read ++ ahead) more)
    (ends : EndsLine ahead) : t.transcript = s.transcript ++ u.transcript := by
  -- Along the transcript of the scanner that has less ahead: its last line stays ended.
  fun_induction transcript s generalizing t read ahead with
  | case1 s item called ih =>
    have settled : s.nextToken.outcome.isSettled = true := by
      apply (h.nextToken_of_endsLine ends).resolve_right
      rintro ⟨ended, -⟩
      rw [ended] at called
      cases called
    obtain ⟨same, read', ahead', between, between'⟩ := h.nextToken_append h' settled
    obtain ⟨taken, rest, rfl, moved⟩ := h.nextToken_moves
    obtain ⟨rfl, rfl⟩ := moved.unique between
    rw [← List.append_assoc] at next
    rw [transcript_of_item (same ▸ called), ih between between' next ends.of_append,
      List.cons_append]
  | case2 s ended =>
    rcases h.nextToken_of_endsLine ends with settled | ⟨-, blank⟩
    · generalize s.nextToken.outcome = outcome at ended settled
      cases outcome <;> cases ended
      cases settled
    · exact h'.transcript_behind_trivia next blank

/-! ## Positions further down -/

theorem EndsLine.column_behind (ends : EndsLine as) : (Position.behind as).column = 1 := by
  rcases List.eq_nil_or_concat as with rfl | ⟨before, c, rfl⟩
  · rfl
  · rw [List.concat_eq_append] at ends ⊢
    cases ends c (by simp)
    simp [Position.behind]

/-- Behind ended lines positions shift by the count of the lines. -/
theorem Position.Shifted.below_eq (h : (Position.behind as).Shifted p q) (ends : EndsLine as)
    (small : as.length + 1 < UInt32.size) : p.below (as.count '\n') = q ∧
      (p.below (as.count '\n')).line.toNat = p.line.toNat + as.count '\n' := by
  have lines : q.line.toNat = p.line.toNat + as.count '\n' := by
    rw [h.line, (marks_behind small).line]
    omega
  have column : q.column = p.column := by
    apply UInt32.toNat_inj.mp
    rw [h.column, ends.column_behind]
    split
    · exact Nat.add_sub_cancel_left ..
    · rfl
  have line : p.line + .ofNat (as.count '\n') = q.line := by
    apply UInt32.toNat_inj.mp
    have room := q.line.toNat_lt
    rw [UInt32.toNat_add, UInt32.toNat_ofNat']
    omega
  have moved : p.below (as.count '\n') = q := by
    rw [below, line, ← column]
  exact ⟨moved, moved ▸ lines⟩

/-- The item's error, if it is one, has an exact line number so many lines further down. -/
def Item.CountsBelow (lines : Nat) (item : Item) : Prop :=
  ∀ e, item = .error e → (e.below lines).position.line.toNat = e.position.line.toNat + lines

theorem Outcome.Shifted.item_rel {o o' : Outcome} (h : Outcome.Shifted (.behind as) o o')
    (ends : EndsLine as) (small : as.length + 1 < UInt32.size) :
    Option.Rel (fun item item' => item.CountsBelow (as.count '\n') ∧
      item.below (as.count '\n') = item') o.item? o'.item? := by
  cases h with
  | token t => exact .some ⟨by rintro e ⟨⟩, rfl⟩
  | @failure fault p q lexeme shift =>
    obtain ⟨moved, counted⟩ := shift.below_eq ends small
    refine .some ⟨?_, ?_⟩
    · rintro e ⟨⟩
      exact counted
    · rw [← moved]
      rfl
  | endOfSource => exact .none

/-- Behind ended lines a scanner reports what one over the rest alone does, so many lines further
down. -/
theorem Scanner.Between.transcript_below (h : s.Between [] ahead) (h' : t.Between read ahead)
    (ends : EndsLine read) (small : (read ++ ahead).length + 1 < UInt32.size) :
    (∀ item ∈ s.transcript, item.CountsBelow (read.count '\n')) ∧
      t.transcript = s.transcript.map (·.below (read.count '\n')) := by
  have short : read.length + 1 < UInt32.size := by
    rw [List.length_append] at small
    omega
  rw [← List.append_nil read] at h' small
  have alike := Scanner.transcript_rel fun m =>
    (h.reports_shifted h' small m).imp fun _ _ shift => shift.item_rel ends short
  obtain ⟨counts, moved⟩ := (List.forall₂_and_left ..).mp alike
  have same : List.Forall₂ Eq (s.transcript.map (·.below (read.count '\n'))) t.transcript :=
    List.forall₂_map_left_iff.mpr moved
  rw [List.forall₂_eq_eq_eq] at same
  exact ⟨counts, same.symm⟩

theorem Scanner.exists_between (read ahead : List Char) : ∃ s : Scanner, s.Between read ahead := by
  let opened := ofString (.ofList (read ++ ahead)) none
  refine ⟨{ opened with cursor := read.length, place := .behind read }, .clear ⟨?_, rfl, rfl, rfl⟩⟩
  simp [opened, ofString]

/-! ## Sources of ended lines and more -/

section

variable {a b : String} (file file' file'' : Option String)

theorem transcript_append (ends : EndsLine a.toList)
    (small : (a ++ b).length + 1 < UInt32.size) :
    (∀ item ∈ (Scanner.ofString b file'').transcript, item.CountsBelow (a.toList.count '\n')) ∧
      (Scanner.ofString (a ++ b) file).transcript = (Scanner.ofString a file').transcript ++
        (Scanner.ofString b file'').transcript.map (·.below (a.toList.count '\n')) := by
  have both := Scanner.between_ofString (a ++ b) file
  rw [String.toList_append] at both
  obtain ⟨u, next⟩ := Scanner.exists_between a.toList b.toList
  have counted : (a.toList ++ b.toList).length + 1 < UInt32.size := by
    rwa [← String.toList_append, String.length_toList]
  obtain ⟨counts, below⟩ :=
    (Scanner.between_ofString b file'').transcript_below next ends counted
  refine ⟨counts, ?_⟩
  rw [← below]
  exact (Scanner.between_ofString a file').transcript_append both next ends

/-- A text that has a line feed is its first line and what is behind that. -/
theorem split_of_dropWhile {text rest : List Char} {feed : Char}
    (behind : text.dropWhile (· != '\n') = feed :: rest) :
    feed = '\n' ∧ text = firstLine text ++ ['\n'] ++ rest := by
  obtain ⟨run, stopped, rfl, inside, stop⟩ := Direct.exists_run (· != '\n') text
  rw [Direct.dropWhile_run inside stop] at behind
  subst behind
  have feed : feed = '\n' := by simpa using stop feed rfl
  rw [firstLine, Direct.takeWhile_run inside stop, feed]
  exact ⟨rfl, by simp⟩

/-- The name of the source is in no report. -/
theorem transcript_file (source : String) :
    (Scanner.ofString source file).transcript = (Scanner.ofString source file').transcript :=
  (Scanner.between_ofString source file).transcript_behind_trivia
    (Scanner.between_ofString source file') .nil

/-- Each line has a scanner of its own, and its items lie as far down as there are lines before. -/
theorem transcript_linesOf (text : List Char) (small : text.length + 1 < UInt32.size) (n : Nat) :
    (Scanner.ofString (.ofList text) file).transcript.map (·.below n) =
      ((linesOf text).zipIdx n).flatMap fun (line, i) =>
        (Scanner.ofString (.ofList line) file).transcript.map (·.below i) := by
  fun_induction linesOf text generalizing n with
  | case1 text _ => simp
  | case2 text feed rest behind ih =>
    obtain ⟨rfl, whole⟩ := split_of_dropWhile behind
    have clean := clean_firstLine text
    generalize firstLine text = line at whole clean
    subst whole
    have one : (line ++ ['\n']).count '\n' = 1 := by simp [List.count_eq_zero.mpr clean]
    have later : rest.length + 1 < UInt32.size := by
      rw [List.length_append] at small
      omega
    have apart := (transcript_append file file file (a := .ofList (line ++ ['\n']))
      (b := .ofList rest) (by simpa using endsLine_lineFeed line)
      (by rwa [← String.ofList_append, String.length_ofList])).2
    rw [String.ofList_append, apart, String.toList_ofList, one, List.zipIdx_cons,
      List.flatMap_cons, ← ih later, List.map_append, List.map_map]
    simp only [Function.comp_def, Item.below_below, Nat.add_comm 1]

theorem Scanner.drain_eq_mapM (s : Scanner) : s.drain = s.transcript.mapM id := by
  fun_induction drain s with
  | case1 s t outcome ih =>
    have called : s.nextToken.outcome.item? = some (.ok t) := by rw [outcome]; rfl
    rw [ih, transcript_of_item called, mapM_token_cons]
  | case2 s e outcome =>
    have called : s.nextToken.outcome.item? = some (.error e) := by rw [outcome]; rfl
    rw [transcript_of_item called]
    rfl
  | case3 s outcome =>
    have ended : s.nextToken.outcome.item? = none := by rw [outcome]; rfl
    rw [transcript_of_endOfSource ended]
    rfl

theorem mapM_map_below (items : List Item) (n : Nat) :
    (items.map (·.below n)).mapM id = (items.mapM id).mapError (·.below n) := by
  induction items with
  | nil => rfl
  | cons item items ih =>
    cases item with
    | error e => rfl
    | ok t =>
      have same : Item.below (.ok t) n = .ok t := rfl
      rw [List.map_cons, same, mapM_token_cons, mapM_token_cons, ih]
      cases items.mapM id <;> rfl

end

/-- **A line feed parts a source in two.** Calls over ended lines and more report, past all errors,
what they do over the lines alone and then what they do over the rest alone, each error of the rest
as many lines further down as there are lines before it. None says that the source ends within one
of the lines. So the tokens are those of the lines and then those of the rest, if neither has an
error, and a whole source may be scanned line by line. -/
theorem lines_part_scanning {a b : String} (small : (a ++ b).length + 1 < UInt32.size)
    (ends : EndsLine a.toList) (file file' file'' : Option String) :
    let n := a.toList.count '\n'
    (Scanner.ofString (a ++ b) file).transcript = (Scanner.ofString a file').transcript ++
      (Scanner.ofString b file'').transcript.map (·.below n) ∧
    (∀ e, .error e ∈ (Scanner.ofString b file'').transcript →
      (e.below n).position.line.toNat = e.position.line.toNat + n) ∧
    (∀ m e, .failure e ∈ (Scanner.ofString a file').reports m →
      e.fault ≠ .unexpectedEndOfInput) ∧
    (tokenize (a ++ b) file = match tokenize a file', tokenize b file'' with
      | .error e, _ => .error e
      | .ok _, .error e => .error (e.below n)
      | .ok ts, .ok us => .ok (ts ++ us)) ∧
    (Scanner.ofString (a ++ b) file).transcript =
      (linesOf (a ++ b).toList).zipIdx.flatMap fun (line, i) =>
        (Scanner.ofString (.ofList line) file').transcript.map (·.below i) := by
  intro n
  obtain ⟨counts, apart⟩ := transcript_append file file' file'' ends small
  refine ⟨apart, ?_, ?_, ?_, ?_⟩
  · exact fun e mem => counts _ mem e rfl
  · exact (Scanner.between_ofString a file').reports_of_endsLine ends
  · rw [tokenize_eq_drain, tokenize_eq_drain, tokenize_eq_drain, Scanner.drain_eq_mapM,
      Scanner.drain_eq_mapM, Scanner.drain_eq_mapM, apart, List.mapM_append, mapM_map_below]
    cases (Scanner.ofString a file').transcript.mapM id <;>
      cases (Scanner.ofString b file'').transcript.mapM id <;> rfl
  · have whole := transcript_linesOf file' (a ++ b).toList (by rwa [String.length_toList]) 0
    rw [String.ofList_toList, ← transcript_file file file'] at whole
    simpa using whole

/-- There is an error in each of the lines, and one in the second line of the rest. -/
theorem lines_part_scanning_behind_errors :
    let a := "1.\nx ?\n"
    let b := "y\n 7z"
    let word (text : String) : Token := ⟨.identifier, text⟩
    let point : ScanError := ⟨.malformedNumber .trailingPoint, ⟨1, 3⟩, "1."⟩
    let stray : ScanError := ⟨.invalidCharacter '?', ⟨2, 3⟩, ""⟩
    let glued (line : UInt32) : ScanError :=
      ⟨.malformedNumber (.unexpectedCharacter 'z'), ⟨line, 3⟩, "7"⟩
    (a ++ b).length + 1 < UInt32.size ∧ EndsLine a.toList ∧
    (Scanner.ofString a none).transcript = [.error point, .ok (word "x"), .error stray] ∧
    (Scanner.ofString b none).transcript = [.ok (word "y"), .error (glued 2)] ∧
    (Scanner.ofString (a ++ b) none).transcript =
      [.error point, .ok (word "x"), .error stray, .ok (word "y"), .error (glued 4)] ∧
    tokenize (a ++ b) none = .error point ∧
    tokenize ("x\n" ++ b) none = .error (glued 3) := by
  intro a b word point stray glued
  have small : (a ++ b).length + 1 < UInt32.size := by decide
  have ends : EndsLine a.toList := by simp [a, EndsLine]
  have first : (Scanner.ofString a none).transcript =
      [.error point, .ok (word "x"), .error stray] := by decide +kernel
  have second : (Scanner.ofString b none).transcript = [.ok (word "y"), .error (glued 2)] := by
    decide +kernel
  obtain ⟨both, -, -, fails, -⟩ := lines_part_scanning small ends none none none
  obtain ⟨-, -, -, later, -⟩ := lines_part_scanning (a := "x\n") (b := b) (by decide)
    (by simp [EndsLine]) none none none
  have two : a.toList.count '\n' = 2 := by decide
  rw [first, second, two] at both
  have rejected : tokenize a none = .error point := by decide +kernel
  have accepted : tokenize "x\n" none = .ok [word "x"] := by decide +kernel
  have rejected' : tokenize b none = .error (glued 2) := by decide +kernel
  rw [rejected] at fails
  rw [accepted, rejected'] at later
  exact ⟨small, ends, first, second, both, fails, later⟩

end Lexical
