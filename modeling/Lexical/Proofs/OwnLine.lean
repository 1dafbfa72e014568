import Lexical.Proofs.Caret
import Lexical.Proofs.LastLexeme
import Lexical.Proofs.Locations

/-! An error and the line it stands in.

The lines above an error hold tokens and trivia only, so the line may be scanned without them; what
stands behind it was never reached; and the carriage returns at its end are as good as the line feed
behind them. So the line alone, as `line?` gives it, shows the error again. -/
namespace Lexical

open Grammar

/-- The error as it is reported where its line is the first. -/
def ScanError.inFirstLine (e : ScanError) : ScanError :=
  { e with position := { e.position with line := 1 } }

variable {source a b : String} {file : Option String} {e : ScanError}
  {text above before rest cs : List Char}

/-! ## Lines -/

theorem exists_ended_lines (text : List Char) :
    ∃ above, text = above ++ lastLine text ∧ EndsLine above := by
  rcases lastLine_cases text with clean | ⟨before, split⟩
  · exact ⟨[], (lastLine_of_clean clean).symm, by rintro _ ⟨⟩⟩
  · exact ⟨before ++ ['\n'], by rwa [List.append_assoc], endsLine_lineFeed before⟩

theorem EndsLine.lastLine_eq_nil (h : EndsLine text) : lastLine text = [] := by
  rw [lastLine, List.rtakeWhile_eq_nil_iff]
  intro some
  simpa using h _ (List.getLast?_eq_some_getLast some)

theorem toLineFeeds_of_clean (clean : '\n' ∉ cs) : toLineFeeds cs = cs := by
  fun_induction toLineFeeds cs with
  | case1 cs => simp at clean
  | case2 c cs _ ih => rw [ih fun mem => clean (List.mem_cons_of_mem _ mem)]
  | case3 => rfl

/-- Carriage returns before the line feed that ends a line make no difference. -/
theorem tokenize_returns (clean : '\n' ∉ cs) (file : Option String) (j : Nat) :
    tokenize (.ofList (cs ++ List.replicate j '\r' ++ ['\n'])) file =
      tokenize (.ofList (cs ++ ['\n'])) file := by
  induction j with
  | zero => simp
  | succ j ih =>
    have clean' : '\n' ∉ cs ++ List.replicate j '\r' := by simp [clean, List.mem_replicate]
    have one : toLineFeeds (cs ++ List.replicate (j + 1) '\r' ++ ['\n']) =
        cs ++ List.replicate j '\r' ++ ['\n'] := by
      rw [List.replicate_succ', ← List.append_assoc, List.append_assoc _ ['\r'],
        List.singleton_append, toLineFeeds_append _ (by simp), toLineFeeds_of_clean clean']
      rfl
    have same := rewrites_toLineFeeds.tokenize_eq
      (.ofList (cs ++ List.replicate (j + 1) '\r' ++ ['\n'])) file file
    rw [String.toList_ofList, one] at same
    rw [← same, ih]

/-! ## Where an error stands -/

/-- A text divided before the line in which an error stands, and at its place in that line. -/
structure ScanError.Stands (e : ScanError) (text above before rest : List Char) : Prop where
  split : text = above ++ (before ++ rest)
  ends : EndsLine above
  clean : '\n' ∉ before
  marks : e.position.Marks (above ++ before)
  last : rest = [] ↔ e.fault = .unexpectedEndOfInput

theorem exists_stands (small : source.length + 1 < UInt32.size)
    (rejected : tokenize source file = .error e) :
    ∃ above before rest, e.Stands source.toList above before rest := by
  obtain ⟨before, front, tokens, fault, lexeme, lost, place, leads, wrong, rfl⟩ :=
    exists_leadsTo rejected
  obtain ⟨rest, split, last⟩ := wrong.exists_rest
  obtain ⟨above, lines, ends⟩ := exists_ended_lines (before ++ place)
  have whole : source.toList = before ++ place ++ rest := by
    rw [leads.split, split, List.append_assoc]
  refine ⟨above, lastLine (before ++ place), rest, ?_, ends, clean_lastLine _, ?_, last, ?_⟩
  · rw [← List.append_assoc, ← lines]
    exact whole
  · rw [← lines]
    apply Position.marks_behind
    have sizes := congrArg List.length whole
    rw [String.length_toList, List.length_append] at sizes
    omega
  · rintro rfl
    cases wrong
    exact List.self_eq_append_right.mp split

/-! ## The lines above and below -/

/-- The line number of an error shows how far down it was moved. -/
theorem ScanError.line_below {n : Nat} (room : e.position.line.toNat + n < UInt32.size) :
    (e.below n).position.line.toNat = e.position.line.toNat + n := by
  change (e.position.line + .ofNat n).toNat = _
  rw [UInt32.toNat_add, UInt32.toNat_ofNat']
  rw [UInt32.size] at room
  omega

/-- An error of ended lines and more is one of the lines, or one of the rest so many lines further
down. -/
theorem error_of_append (small : (a ++ b).length + 1 < UInt32.size) (ends : EndsLine a.toList)
    (file' : Option String) (rejected : tokenize (a ++ b) file = .error e) :
    tokenize a file' = .error e ∨
      ∃ e', tokenize b file' = .error e' ∧ e = e'.below (a.toList.count '\n') ∧
        1 ≤ e'.position.line.toNat ∧
        e.position.line.toNat = e'.position.line.toNat + a.toList.count '\n' := by
  have parts : tokenize a file' = .error e ∨
      ∃ e', tokenize b file' = .error e' ∧ e = e'.below (a.toList.count '\n') := by
    have apart := (transcript_append file file' file' ends small).2
    rw [tokenize_eq_drain, Scanner.drain_eq_mapM] at rejected ⊢
    rw [tokenize_eq_drain, Scanner.drain_eq_mapM]
    rw [apart, List.mapM_append, mapM_map_below] at rejected
    generalize (Scanner.ofString a file').transcript.mapM id = first at rejected ⊢
    generalize (Scanner.ofString b file').transcript.mapM id = second at rejected ⊢
    cases first with
    | error e' => exact .inl rejected
    | ok ts =>
      cases second with
      | error e' =>
        cases rejected
        exact .inr ⟨e', rfl, rfl⟩
      | ok us => cases rejected
  rcases parts with above | ⟨e', later, rfl⟩
  · exact .inl above
  · rw [String.length_append] at small
    obtain ⟨above, before, rest, stands⟩ := exists_stands (by omega) later
    have counted := stands.marks.le
    have sizes := congrArg List.length stands.split
    have feeds : a.toList.count '\n' ≤ a.toList.length := List.count_le_length
    rw [String.length_toList, ← List.append_assoc, List.length_append] at sizes
    rw [String.length_toList] at feeds
    refine .inr ⟨e', later, rfl, ?_, ScanError.line_below (by omega)⟩
    rw [stands.marks.line]
    exact Nat.le_add_left 1 _

/-- The lines above an error may be left out. -/
theorem tokenize_from_line (small : source.length + 1 < UInt32.size) (file' : Option String)
    (rejected : tokenize source file = .error e)
    (stands : e.Stands source.toList above before rest) :
    tokenize (.ofList (before ++ rest)) file' = .error e.inFirstLine := by
  have whole : source = .ofList above ++ .ofList (before ++ rest) := by
    rw [← String.ofList_append, ← stands.split, String.ofList_toList]
  rw [whole] at rejected small
  have ends : EndsLine (String.ofList above).toList := by
    rw [String.toList_ofList]
    exact stands.ends
  rcases error_of_append small ends file' rejected with
    rejected' | ⟨e', rejected', below, -, lines⟩
  · -- Such an error would stand before a character of the lines above.
    rw [String.length_append] at small
    obtain ⟨above', before', rest', stands'⟩ := exists_stands (by omega) rejected'
    have split := stands'.split
    rw [String.toList_ofList, ← List.append_assoc] at split
    have both := stands.marks
    rw [split, List.append_assoc] at both
    have nothing := stands'.marks.nil_of_append both
    have broken := stands'.last.mp (List.append_eq_nil_iff.mp nothing).1
    exact absurd broken (fault_ne_of_endsLine ends rejected')
  · have counted := stands.marks.line
    rw [List.count_append, List.count_eq_zero.mpr stands.clean] at counted
    rw [String.toList_ofList] at lines
    have first : e'.position.line = 1 := by
      apply UInt32.toNat_inj.mp
      change _ = 1
      omega
    have same : e.inFirstLine = e' := by
      rw [below]
      simp [ScanError.inFirstLine, ScanError.below, Position.below, ← first]
    rw [rejected', same]

/-- What stands behind the line of an error may be left out, and a line feed put in its place. -/
theorem tokenize_up_to_line (small : text.length + 1 < UInt32.size) (file : Option String)
    (rejected : tokenize (.ofList text) file = .error e) (first : e.position.line = 1)
    (goesOn : e.fault ≠ .unexpectedEndOfInput) :
    tokenize (.ofList (firstLine text ++ ['\n'])) file = .error e := by
  cases behind : text.dropWhile (· != '\n') with
  | nil =>
    have whole : firstLine text = text := by
      have split := List.takeWhile_append_dropWhile (l := text) (p := (· != '\n'))
      rwa [behind, List.append_nil] at split
    rw [whole, String.ofList_append]
    rw [← rejected]
    apply tokenize_lineFeed
    intro e' rejected'
    rw [rejected] at rejected'
    cases rejected'
    exact goesOn
  | cons feed more =>
    obtain ⟨-, split⟩ := split_of_dropWhile behind
    generalize firstLine text = line at split ⊢
    subst split
    rw [String.ofList_append] at rejected
    have ends : EndsLine (String.ofList (line ++ ['\n'])).toList := by
      rw [String.toList_ofList]
      exact endsLine_lineFeed line
    have short : (String.ofList (line ++ ['\n']) ++ String.ofList more).length + 1 <
        UInt32.size := by
      rw [← String.ofList_append, String.length_ofList]
      omega
    rcases error_of_append short ends file rejected with here | ⟨e', -, -, least, lines⟩
    · exact here
    · rw [String.toList_ofList, List.count_append, first] at lines
      simp at lines
      omega

/-- A lexeme that the source breaks off ends in no carriage return. -/
theorem getLast?_of_unended (broken : tokenize (.ofList cs) file = .error e)
    (fault : e.fault = .unexpectedEndOfInput) : cs.getLast? ≠ some '\r' := by
  obtain ⟨_, position, lexeme⟩ := e
  cases fault
  obtain ⟨before, leads, waits, -⟩ := exists_unended broken
  have split := leads.split
  rw [String.toList_ofList] at split
  intro last
  rw [split, List.getLast?_append_of_ne_nil _ (Diagnosis.unexpectedEndOfInput waits).ne_nil] at last
  cases waits.no_separator _ (List.mem_of_getLast? last)

/-- **An error depends on its own line only.** If a source is rejected, the line that the position
names is there, and alone, with a line feed behind it, it is rejected with the same fault, lexeme
and column. Only an error for the end of the source needs that end: then it is the last line, and
alone it is rejected without a line feed. -/
theorem error_shows_in_its_line (small : source.length + 2 < UInt32.size)
    (rejected : tokenize source file = .error e) (file' : Option String) :
    ∃ line, line? source e.position.line = some line ∧
      (e.fault ≠ .unexpectedEndOfInput →
        tokenize (line ++ "\n") file' = .error e.inFirstLine) ∧
      (e.fault = .unexpectedEndOfInput →
        e.position.line.toNat = (source.toList.splitOn '\n').length ∧
        tokenize line file' = .error e.inFirstLine) := by
  obtain ⟨above, before, rest, stands⟩ := exists_stands (by omega) rejected
  have alone := tokenize_from_line (by omega) file' rejected stands
  have split := stands.split
  have size := congrArg List.length split
  rw [String.length_toList, List.length_append] at size
  rw [← List.append_assoc] at split
  have has := stands.marks.line?_eq split
  rw [lastLine_append stands.clean, stands.ends.lastLine_eq_nil, List.nil_append] at has
  refine ⟨_, has, ?_, ?_⟩
  · intro goesOn
    have cut := tokenize_up_to_line (by omega) file' alone rfl goesOn
    rw [firstLine_append stands.clean] at cut
    have clean : '\n' ∉ before ++ firstLine rest := by
      simpa using ⟨stands.clean, clean_firstLine rest⟩
    obtain ⟨j, returns⟩ := exists_withoutReturns (before ++ firstLine rest)
    change tokenize (.ofList (withoutReturns (before ++ firstLine rest)) ++ "\n") file' = _
    generalize withoutReturns (before ++ firstLine rest) = line at returns ⊢
    rw [returns] at clean cut
    rw [tokenize_returns fun mem => clean (List.mem_append_left _ mem), String.ofList_append] at cut
    exact cut
  · intro broken
    have none := stands.last.mpr broken
    subst none
    rw [List.append_nil] at alone split
    refine ⟨by rw [length_splitOn, split, stands.marks.line], ?_⟩
    have same : withoutReturns before = before :=
      withoutReturns_of_getLast? (getLast?_of_unended alone broken)
    change tokenize (.ofList (withoutReturns (before ++ []))) file' = _
    rw [List.append_nil, same]
    exact alone

/-- In the line of the first error a carriage return closes a comment, and another one is at fault.
The second error needs the end of its source. -/
theorem error_shows_in_its_line_behind_comment :
    let source := "x\r\n #?\r\t 7.\r\r\n@"
    let point : ScanError := ⟨.malformedNumber .trailingPoint, ⟨2, 9⟩, "7."⟩
    let broken : ScanError := ⟨.unexpectedEndOfInput, ⟨2, 4⟩, "1."⟩
    source.length + 2 < UInt32.size ∧ tokenize source none = .error point ∧
    line? source 2 = some " #?\r\t 7." ∧
    tokenize (" #?\r\t 7." ++ "\n") none = .error ⟨point.fault, ⟨1, 9⟩, "7."⟩ ∧
    tokenize "x #\n 1." none = .error broken ∧
    tokenize " 1." none = .error ⟨broken.fault, ⟨1, 4⟩, "1."⟩ := by
  intro source point broken
  have small : source.length + 2 < UInt32.size := by decide
  have rejected : tokenize source none = .error point := by decide +kernel
  have rejected' : tokenize "x #\n 1." none = .error broken := by decide +kernel
  have has : line? source 2 = some " #?\r\t 7." := by decide +kernel
  have has' : line? "x #\n 1." 2 = some " 1." := by decide +kernel
  obtain ⟨line, named, alone, -⟩ := error_shows_in_its_line small rejected none
  obtain ⟨line', named', -, ends⟩ := error_shows_in_its_line (by decide) rejected' none
  cases named.symm.trans has
  cases named'.symm.trans has'
  exact ⟨small, rejected, has, alone (by simp [point]), rejected', (ends rfl).2⟩

end Lexical
