import Lexical.Proofs.Excerpt
import Lexical.Proofs.Ledger

/-! Where the caret of an excerpt points.

The position of an error that a scanner reports, the line that the excerpt takes from the source and
the indent that it takes off that line are worked out apart from each other. They agree because
nothing in a lexeme is blank: so a lexeme lies on one line, and behind the indent of that line. -/
namespace Lexical

open Excerpt (isIndent shown)

namespace Grammar

variable {cs lexeme lost place : List Char} {fault : Fault} {c : Char}

theorem solid_of_isWordPart (h : isWordPart c = true) : isWhitespace c = false :=
  CharClass.test_of_isWordPart (l := .whitespace) h (by simp) (by simp)

theorem solid_of_isDigit (h : isDigit c = true) : isWhitespace c = false :=
  solid_of_isWordPart (by simp [isWordPart, h])

theorem Unended.solid (h : Unended cs) : ∀ c ∈ cs, isWhitespace c = false := by
  cases h with
  | word is => exact fun c mem => solid_of_isWordPart (is.parts c mem)
  | integer is => exact fun c mem => solid_of_isDigit (is.2 c mem)
  | fraction before behind =>
    intro c mem
    rcases List.mem_append.mp mem with mem | mem
    · exact solid_of_isDigit (before c mem)
    · rcases List.mem_cons.mp mem with rfl | mem
      · rfl
      · exact solid_of_isDigit (behind c mem)
  | @operator c is =>
    simp only [isRelOperator, Bool.or_eq_true, beq_iff_eq] at is
    rcases is with ((rfl | rfl) | rfl) | rfl <;> simp <;> rfl

/-- A lexeme holds no blank. -/
theorem Diagnosis.solid (h : Diagnosis cs fault lexeme lost place) :
    ∀ c ∈ lexeme, isWhitespace c = false := by
  cases h with
  | invalidCharacter => simp
  | malformedIdentifier is => exact (Unended.word is).solid
  | unexpectedCharacter is => exact (Unended.integer is).solid
  | trailingPoint before =>
    have waits : Unended (_ ++ '.' :: []) := .fraction before (by simp)
    exact waits.solid
  | @tooManyPoints whole part more before behind =>
    rw [← List.cons_append, ← List.append_assoc]
    intro c mem
    rcases List.mem_append.mp mem with mem | mem
    · exact (Unended.fraction before behind).solid c mem
    · cases List.mem_singleton.mp mem
      rfl
  | unexpectedEndOfInput waits => exact waits.solid

theorem Diagnosis.solid_place (h : Diagnosis cs fault lexeme lost place) :
    ∀ c ∈ place, isWhitespace c = false := by
  intro c mem
  rw [h.place_eq, placeOf] at mem
  split at mem
  · exact h.solid c ((List.dropLast_sublist _).subset mem)
  · exact h.solid c mem

/-- Only what the end of the source breaks off has its place at the end. -/
theorem Diagnosis.exists_rest (h : Diagnosis cs fault lexeme lost place) :
    ∃ rest, cs = place ++ rest ∧ (rest = [] → fault = .unexpectedEndOfInput) := by
  cases h with
  | @invalidCharacter c more => exact ⟨c :: more, rfl, by simp⟩
  | @malformedIdentifier word c more => exact ⟨c :: more, rfl, by simp⟩
  | @unexpectedCharacter digits c more => exact ⟨c :: more, rfl, by simp⟩
  | @trailingPoint whole c more => exact ⟨c :: more, by simp, by simp⟩
  | @tooManyPoints whole part more => exact ⟨'.' :: more, by simp, by simp⟩
  | unexpectedEndOfInput => exact ⟨[], by simp, by simp⟩

theorem Diagnosis.found_ne (h : Diagnosis cs fault lexeme lost place) :
    fault ≠ .malformedIdentifier '\n' := by
  rintro rfl
  cases h with
  | malformedIdentifier _ invalid => cases invalid

end Grammar

open Grammar
open Scanner (Between)

variable {source : String} {file : Option String} {s : Scanner} {answers : List Answer}
  {answer : Answer} {e : ScanError} {name : String} {read ahead : List Char}

/-! ## Between the source and the excerpt -/

/-- A source divided at the place of an error, with what the excerpt relies on: only the end of the
source has nothing behind its place, the heading fits on one line, and the caret will stand behind
the indent, because ink stands at the place or before it. -/
structure ScanError.Divides (e : ScanError) (source before rest : List Char) : Prop where
  split : source = before ++ rest
  marks : e.position.Marks before
  last : rest = [] → e.fault = .unexpectedEndOfInput
  heading : '\n' ∉ (Excerpt.heading e).toList
  ink : ∃ xs c ys, lastLine before ++ firstLine rest = xs ++ c :: ys ∧ isIndent c = false ∧
    xs.length ≤ (lastLine before).length

theorem Session.divides (small : source.length + 1 < UInt32.size)
    (h : Session source file answers s) (given : answer ∈ answers)
    (fails : answer.item? = some (.error e)) :
    ∃ before rest, e.Divides source.toList before rest := by
  obtain ⟨t, ⟨_, session⟩, fails⟩ := h.exists_call given fails
  obtain ⟨gap, front, lost, place, ahead, wrong, position⟩ := session.between.exists_diagnosis fails
  obtain ⟨rest, front', last⟩ := wrong.exists_rest
  have split := (List.take_append_drop t.offset source.toList).symm
  rw [ahead, ← List.append_assoc] at split
  generalize source.toList.take t.offset ++ gap = before at split position
  have clean {cs : List Char} (solid : ∀ c ∈ cs, isWhitespace c = false) : '\n' ∉ cs :=
    fun mem => by cases solid _ mem
  have cleanPlace := clean wrong.solid_place
  refine ⟨before ++ place, rest, by rw [split, front', List.append_assoc], ?_, last, ?_, ?_⟩
  · rw [position]
    apply Position.marks_behind
    have size := congrArg List.length (split.trans (by rw [front']))
    simp only [String.length_toList, List.length_append] at size ⊢
    omega
  · exact Excerpt.clean_heading (clean wrong.solid) wrong.found_ne
  · have head := Direct.head_skip front
    rw [wrong.skip_eq] at head
    cases front with
    | nil => exact absurd rfl wrong.ne_nil
    | cons c more =>
      have solid := (head c rfl).1
      have feed : c ≠ '\n' := by rintro rfl; cases solid
      refine ⟨lastLine before, c, firstLine more, ?_, ?_, ?_⟩
      · rw [lastLine_append cleanPlace, List.append_assoc, ← firstLine_append cleanPlace, ← front']
        simp [firstLine, feed]
      · cases indent : isIndent c with
        | false => rfl
        | true =>
          simp only [isIndent, Bool.or_eq_true, beq_iff_eq] at indent
          rcases indent with rfl | rfl <;> cases solid
      · simp [lastLine_append cleanPlace]

namespace ScanError.Divides

variable {text before rest : List Char}

/-- The line of the error, as it is taken from the source. -/
def line (before rest : List Char) : String :=
  String.ofList (Text.trimEndWhile (· == '\r') (lastLine before ++ firstLine rest))

/-- The line is its indent, which does not reach the place of the error, what is shown of it, and
blanks. -/
theorem exists_parts (h : e.Divides text before rest) :
    ∃ ind blanks : List Char, ind.length = Excerpt.indent (line before rest) ∧
      ind.length ≤ (lastLine before).length ∧
      lastLine before ++ firstLine rest = ind ++ (shown (line before rest)).toList ++ blanks ∧
      ∀ c ∈ blanks, Text.isBlank c = true := by
  obtain ⟨ind, blanks, is, split, areBlank⟩ :=
    Excerpt.exists_shown (lastLine before ++ firstLine rest)
  refine ⟨ind, blanks, by simp [Excerpt.indent, line, is], ?_, split, areBlank⟩
  obtain ⟨xs, c, ys, inked, noIndent, le⟩ := h.ink
  apply Nat.le_trans _ le
  by_contra longer
  have found : ind[xs.length]? = some c := by
    calc
      ind[xs.length]? = (ind ++ ((shown (line before rest)).toList ++ blanks))[xs.length]? :=
        (List.getElem?_append_left (by omega)).symm
      _ = (xs ++ c :: ys)[xs.length]? := by
        rw [← List.append_assoc, ← inked]
        exact congrArg (·[xs.length]?) split.symm
      _ = some c := by simp
  have indented := List.mem_of_getElem? found
  rw [is] at indented
  rw [List.mem_takeWhile_imp indented] at noIndent
  cases noIndent

/-- How far behind the indent the place of the error is. -/
def inset (before rest : List Char) : Nat :=
  (lastLine before).length - Excerpt.indent (line before rest)

theorem getElem?_shown (h : e.Divides text before rest)
    (reaches : inset before rest < (shown (line before rest)).toList.length) :
    (shown (line before rest)).toList[inset before rest]? = rest.head? := by
  obtain ⟨ind, blanks, size, within, split, -⟩ := h.exists_parts
  have index : (lastLine before).length = ind.length + inset before rest := by
    unfold inset
    omega
  generalize (shown (line before rest)).toList = cs at split reaches ⊢
  have same : cs[inset before rest]? = (firstLine rest).head? := by
    calc
      cs[inset before rest]? = (ind ++ cs ++ blanks)[(lastLine before).length]? := by
        rw [index, List.append_assoc, List.getElem?_append_right (Nat.le_add_right _ _),
          Nat.add_sub_cancel_left, List.getElem?_append_left reaches]
      _ = (firstLine rest).head? := by rw [← split, getElem?_behind]
  cases rest with
  | nil => exact same
  | cons c more =>
    by_cases feed : c = '\n'
    · subst feed
      rw [List.getElem?_eq_getElem reaches] at same
      cases same
    · simpa [firstLine, feed] using same

theorem blank_of_short (h : e.Divides text before rest)
    (short : (shown (line before rest)).toList.length ≤ inset before rest) :
    ∀ d ∈ firstLine rest, Text.isBlank d = true := by
  obtain ⟨ind, blanks, size, within, split, areBlank⟩ := h.exists_parts
  generalize (shown (line before rest)).toList = cs at split short
  have behind : firstLine rest = (ind ++ cs ++ blanks).drop (lastLine before).length := by
    rw [← split, List.drop_left]
  have index : (lastLine before).length = (ind ++ cs).length + (inset before rest - cs.length) := by
    unfold inset at short ⊢
    rw [List.length_append]
    omega
  intro d mem
  rw [behind, index, List.drop_length_add_append] at mem
  exact areBlank d (List.mem_of_mem_drop mem)

/-- Neither the difference nor the column before the first is ever cut off. -/
theorem caretColumn_eq (h : e.Divides text before rest) :
    Excerpt.caretColumn (line before rest) e.position.column = inset before rest + 1 ∧
      Excerpt.indent (line before rest) + (inset before rest + 1) = e.position.column.toNat := by
  obtain ⟨ind, blanks, size, within, -, -⟩ := h.exists_parts
  have column := h.marks.column_eq
  unfold Excerpt.caretColumn inset
  change max 1 (e.position.column.toNat - Excerpt.indent (line before rest)) = _ ∧ _
  omega

theorem pointsAt (h : e.Divides text before rest) (oneLine : '\n' ∉ name.toList) :
    Excerpt.PointsAt
      (String.join ((Excerpt.lines e name (line before rest)).map (· ++ "\n")))
      ((toString e.position.line).length + 1) text before.length e.fault := by
  obtain ⟨ind, blanks, -, -, split, -⟩ := h.exists_parts
  have clean : '\n' ∉ (shown (line before rest)).toList := by
    intro mem
    have inLine : '\n' ∈ lastLine before ++ firstLine rest := by
      rw [split]
      simp [mem]
    rcases List.mem_append.mp inLine with mem | mem
    · exact clean_lastLine before mem
    · exact clean_firstLine rest mem
  have column := h.caretColumn_eq.1
  have next : text[before.length]? = rest.head? := by rw [h.split, getElem?_behind]
  refine ⟨_, _, _, _, _, Excerpt.splitOn_join (Excerpt.clean_lines h.heading oneLine clean),
    Excerpt.idxOf?_bar _ _ _, ?_, ?_, ?_⟩
  · rw [Excerpt.toList_pointing, ← List.cons_append, ← List.cons_append, ← List.append_assoc]
    exact List.getLast?_concat
  · rw [column, Excerpt.length_pointing, Excerpt.length_numbered, Nat.add_sub_cancel,
      Excerpt.getElem?_numbered, next]
    exact fun reaches => h.getElem?_shown (by omega)
  · rw [column, Excerpt.length_pointing, Excerpt.length_numbered, next]
    intro short
    have blank := h.blank_of_short (by omega)
    cases rest with
    | nil => exact .inl (h.last rfl)
    | cons c more =>
      refine .inr (.inr ⟨c, rfl, ?_⟩)
      rwa [h.split, List.drop_left]

end ScanError.Divides

/-- **The caret stands under what is at fault.** For every error that a session reports, the excerpt
takes a line that the source has, and its indent does not reach the error. The excerpt is refused
exactly if the caret would stand too far to the right, and otherwise it points at the character with
the position of the error. -/
theorem caret_points_at_error (small : source.length + 1 < UInt32.size)
    (h : Session source file answers s) (given : answer ∈ answers)
    (fails : answer.item? = some (.error e)) (oneLine : '\n' ∉ name.toList) :
    ∃ line i, line? source e.position.line = some line ∧
      i ≤ source.length ∧ e.position.Marks (source.toList.take i) ∧
      (∀ j ≤ source.length, e.position.Marks (source.toList.take j) → j = i) ∧
      Excerpt.indent line < e.position.column.toNat ∧
      String.Pos.Raw.IsValid line ⟨Excerpt.indent line⟩ ∧
      ((∃ fault, Excerpt.render e source name = .error fault) ↔
        Excerpt.maxWidth < e.position.column.toNat - Excerpt.indent line) ∧
      ∀ text, Excerpt.render e source name = .ok text →
        Excerpt.PointsAt text ((toString e.position.line).length + 1) source.toList i e.fault := by
  obtain ⟨before, rest, divides⟩ := h.divides small given fails
  obtain ⟨column, sum⟩ := divides.caretColumn_eq
  have has : line? source e.position.line = some (ScanError.Divides.line before rest) :=
    divides.marks.line?_eq divides.split
  have upTo : source.toList.take before.length = before := by rw [divides.split, List.take_left]
  have within : before.length ≤ source.length := by
    rw [← String.length_toList, divides.split, List.length_append]
    exact Nat.le_add_right _ _
  have only (j : Nat) (le : j ≤ source.length)
      (marks : e.position.Marks (source.toList.take j)) : j = before.length :=
    marks.unique (upTo.symm ▸ divides.marks) (String.length_toList ▸ le)
      (String.length_toList ▸ within)
  refine ⟨_, before.length, has, within, upTo.symm ▸ divides.marks, only, by omega,
    Excerpt.isValid_indent _, ?_, ?_⟩
  · have width : e.position.column.toNat - Excerpt.indent (ScanError.Divides.line before rest) =
        Excerpt.caretColumn (ScanError.Divides.line before rest) e.position.column := by omega
    simp only [Excerpt.render, has, Option.getD_some, width]
    split <;> simp_all
  · intro text rendered
    simp only [Excerpt.render, has, Option.getD_some] at rendered
    split at rendered
    · cases rendered
    · cases rendered
      exact divides.pointsAt oneLine

/-- An error behind another one, in a line with an indent. -/
theorem caret_points_at_error_behind_indent :
    let source := "?\n\t 7é\r\n"
    let s := Scanner.ofString source none
    let t := s.nextToken.scanner
    let e : ScanError := ⟨.malformedNumber (.unexpectedCharacter 'é'), ⟨2, 4⟩, "7"⟩
    let answers : List Answer := [.report s.nextToken.outcome, .report (.failure e)]
    let text := "Error: MalformedNumber (Number literal `7` is followed by 'é')\n" ++
      "-> shell\n  |\n2 | 7é\n  | -^\n"
    source.length + 1 < UInt32.size ∧
    Session source none answers t.nextToken.scanner ∧
    Excerpt.render e source "shell" = .ok text ∧
    Excerpt.PointsAt text 2 source.toList 5 e.fault := by
  intro source s t e answers text
  have small : source.length + 1 < UInt32.size := by decide
  have later : t.nextToken.outcome = .failure e := by decide +kernel
  have session : Session source none answers t.nextToken.scanner := by
    have second : Session source none _ t.nextToken.scanner := .nextToken (.nextToken .opened)
    rwa [later] at second
  have given : .report (.failure e) ∈ answers := by simp [answers]
  have oneLine : '\n' ∉ "shell".toList := by decide
  have rendered : Excerpt.render e source "shell" = .ok text := by decide +kernel
  have marks : e.position.Marks (source.toList.take 5) := ⟨by decide, by decide⟩
  obtain ⟨line, i, -, -, -, only, -, -, -, points⟩ :=
    caret_points_at_error small session given rfl oneLine
  have place : 5 = i := only 5 (by decide) marks
  have bar : (toString e.position.line).length + 1 = 2 := by decide +kernel
  exact ⟨small, session, rendered, place ▸ bar ▸ points text rendered⟩

end Lexical
