import Lexical.Excerpt
import Lexical.Proofs.CharClass
import Lexical.Proofs.Lines
import Lexical.Proofs.Quotations

/-! The layout of an excerpt.

An excerpt whose texts hold no line feed is five lines. The bars of the last three stand in one
column, and what is shown of the line is the line itself, without an indent and without blanks at
its end. -/
namespace Lexical.Excerpt

variable {e : ScanError} {file line : String} {cs seg : List Char} {c : Char}

/-! ## Lines and columns -/

theorem idxOf?_of_not_mem (xs ys : List Char) (h : c ∉ xs) :
    (xs ++ c :: ys).idxOf? c = some xs.length := by
  induction xs with
  | nil => simp [List.idxOf?_cons]
  | cons x xs ih =>
    simp only [List.mem_cons, not_or] at h
    obtain ⟨ne, h⟩ := h
    simp [List.idxOf?_cons, Ne.symm ne, ih h]

/-- Lines without line feeds are read back from their text. -/
theorem splitOn_join {ls : List String} (clean : ∀ l ∈ ls, '\n' ∉ l.toList) :
    (String.join (ls.map (· ++ "\n"))).toList.splitOn '\n' = ls.map String.toList ++ [[]] := by
  induction ls with
  | nil => rfl
  | cons l ls ih =>
    obtain ⟨here, later⟩ := List.forall_mem_cons.mp clean
    have text : (String.join ((l :: ls).map (· ++ "\n"))).toList =
        l.toList ++ '\n' :: (String.join (ls.map (· ++ "\n"))).toList := by
      simp [String.toList_join]
    rw [text, List.splitOn_append_cons_self_of_not_mem here, ih later]
    rfl

/-- A number is written in digits. -/
theorem isDigit_of_mem_number {n : UInt32} (mem : c ∈ (toString n).toList) : c.isDigit = true := by
  have digits : c ∈ Nat.toDigits 10 n.toNat := by
    simpa [toString, Nat.repr] using mem
  exact Nat.isDigit_of_mem_toDigits (by decide) (by decide) digits

theorem not_mem_number {n : UInt32} (h : c.isDigit = false) : c ∉ (toString n).toList := by
  intro mem
  simp [isDigit_of_mem_number mem] at h

/-- A quotation never breaks the line: a line feed in it is escaped. -/
theorem clean_quoteChar (c : Char) : '\n' ∉ (Text.quoteChar c).toList := by
  have escaped : '\n' ∉ Text.escape '\'' c := by
    have digits : '\n' ∉ Nat.toDigits 16 c.toNat := Text.not_mem_toDigits (by decide)
    unfold Text.escape
    split
    · simp
    split
    · simp
    split
    · simp
    · next feed =>
      have other : c ≠ '\n' := by simpa using feed
      grind
  simpa [Text.quoteChar] using escaped

/-- A gutter is as wide as the number of the line and the blank behind it. -/
theorem toList_gutter (n : UInt32) :
    (gutter n).toList = List.replicate ((toString n).length + 1) ' ' ++ ['|'] := by
  simp [gutter]

/-! ## What is shown of a line -/

theorem exists_trimEndWhile (p : Char → Bool) (cs : List Char) :
    ∃ blanks, cs = Text.trimEndWhile p cs ++ blanks ∧ ∀ c ∈ blanks, p c = true :=
  ⟨cs.rtakeWhile p, List.rdropWhile_append_rtakeWhile.symm,
    fun _ mem => List.mem_rtakeWhile_imp mem⟩

/-- A line is its indent, what is shown of it, and blanks. -/
theorem exists_shown (seg : List Char) : ∃ indent blanks,
    indent = (Text.trimEndWhile (· == '\r') seg).takeWhile isIndent ∧
    seg = indent ++ (shown (String.ofList (Text.trimEndWhile (· == '\r') seg))).toList ++ blanks ∧
    ∀ c ∈ blanks, Text.isBlank c = true := by
  obtain ⟨returns, split, areReturns⟩ := exists_trimEndWhile (· == '\r') seg
  generalize Text.trimEndWhile (· == '\r') seg = line at split ⊢
  obtain ⟨blanks, split', areBlank⟩ := exists_trimEndWhile Text.isBlank (line.dropWhile isIndent)
  refine ⟨_, blanks ++ returns, rfl, ?_, ?_⟩
  · rw [shown, String.toList_ofList, String.toList_ofList, Text.trimEnd, List.append_assoc,
      ← List.append_assoc _ blanks, ← split', ← List.append_assoc, List.takeWhile_append_dropWhile]
    exact split
  · intro c mem
    rcases List.mem_append.mp mem with mem | mem
    · exact areBlank c mem
    · cases beq_iff_eq.mp (areReturns c mem)
      rfl

/-! ## The five lines -/

theorem clean_append {a b : String} (ha : '\n' ∉ a.toList) (hb : '\n' ∉ b.toList) :
    '\n' ∉ (a ++ b).toList := by
  rw [String.toList_append, List.mem_append]
  exact not_or.mpr ⟨ha, hb⟩

theorem clean_name (fault : Fault) : '\n' ∉ fault.name.toList := by
  cases fault <;>
    · rw [Fault.name]
      decide +kernel

/-- Besides the lexeme, only the character behind a word is written into a tip as it is. -/
theorem clean_tip (lexeme : '\n' ∉ e.lexeme.toList) (found : e.fault ≠ .malformedIdentifier '\n') :
    ∀ tip ∈ e.tip, '\n' ∉ tip.toList := by
  obtain ⟨fault, position, text⟩ := e
  intro tip given
  cases fault with
  | invalidCharacter => cases given
  | malformedIdentifier c =>
    cases given
    have other : '\n' ∉ c.toString.toList := by
      simpa [Char.toString] using fun is : '\n' = c => found (is ▸ rfl)
    exact clean_append (clean_append (clean_append (clean_append (by decide +kernel) lexeme)
      (by decide +kernel)) other) (by decide +kernel)
  | malformedNumber reason =>
    cases given
    have message : '\n' ∉ reason.message.toList := by
      cases reason with
      | unexpectedCharacter c => exact clean_append (by decide +kernel) (clean_quoteChar c)
      | trailingPoint | tooManyPoints => decide +kernel
    exact clean_append (clean_append (clean_append (by decide +kernel) lexeme) (by decide +kernel))
      message
  | unexpectedEndOfInput =>
    cases given
    exact clean_append (clean_append (by decide +kernel) lexeme) (by decide +kernel)

theorem clean_heading (lexeme : '\n' ∉ e.lexeme.toList)
    (found : e.fault ≠ .malformedIdentifier '\n') : '\n' ∉ (heading e).toList := by
  have clean := clean_tip lexeme found
  have error : '\n' ∉ ("Error: " ++ e.fault.name).toList :=
    clean_append (by decide +kernel) (clean_name e.fault)
  unfold heading
  cases given : e.tip with
  | none => exact error
  | some tip =>
    exact clean_append (clean_append (clean_append error (by decide +kernel)) (clean tip given))
      (by decide +kernel)

theorem toList_numbered (n : UInt32) (line : String) :
    (toString n ++ " | " ++ shown line).toList =
      ((toString n).toList ++ [' ']) ++ '|' :: ' ' :: (shown line).toList := by
  simp

theorem toList_pointing (n : UInt32) (width : Nat) :
    (gutter n ++ " " ++ caret width).toList =
      List.replicate ((toString n).length + 1) ' ' ++
        '|' :: ' ' :: (List.replicate (width - 1) '-' ++ ['^']) := by
  simp [toList_gutter, caret]

theorem length_numbered (n : UInt32) (line : String) :
    (toString n ++ " | " ++ shown line).toList.length =
      (toString n).length + 3 + (shown line).toList.length := by
  rw [toList_numbered, List.length_append, List.length_append, String.length_toList]
  simp only [List.length_cons, List.length_nil]
  omega

/-- The caret of the width `k + 1` comes under the character with the index `k` of what is shown. -/
theorem length_pointing (n : UInt32) (k : Nat) :
    (gutter n ++ " " ++ caret (k + 1)).toList.length = (toString n).length + 3 + k + 1 := by
  rw [toList_pointing]
  simp only [List.length_append, List.length_cons, List.length_nil, List.length_replicate]
  omega

theorem getElem?_numbered (n : UInt32) (line : String) (k : Nat) :
    (toString n ++ " | " ++ shown line).toList[(toString n).length + 3 + k]? =
      (shown line).toList[k]? := by
  have parts : (toString n ++ " | " ++ shown line).toList =
      ((toString n).toList ++ [' ', '|', ' ']) ++ (shown line).toList := by simp
  have size : ((toString n).toList ++ [' ', '|', ' ']).length = (toString n).length + 3 := by
    rw [List.length_append, String.length_toList]
    rfl
  rw [parts, ← size, List.getElem?_append_right (Nat.le_add_right _ _), Nat.add_sub_cancel_left]

theorem not_mem_blanks (ne : c ≠ ' ') (n : Nat) : c ∉ List.replicate n ' ' := by
  simp [List.mem_replicate, ne]

/-- The bar stands behind the width of the number and a blank. -/
theorem idxOf?_bar (n : UInt32) (line : String) (width : Nat) :
    ∀ l ∈ [(gutter n).toList, (toString n ++ " | " ++ shown line).toList,
        (gutter n ++ " " ++ caret width).toList],
      l.idxOf? '|' = some ((toString n).length + 1) := by
  have number : '|' ∉ (toString n).toList ++ [' '] := by
    simpa using not_mem_number (n := n) (c := '|') (by decide)
  simp only [List.forall_mem_cons]
  refine ⟨?_, ?_, ?_, by simp⟩
  · rw [toList_gutter, idxOf?_of_not_mem _ _ (not_mem_blanks (by decide) _)]
    simp
  · rw [toList_numbered, idxOf?_of_not_mem _ _ number, List.length_append, String.length_toList]
    rfl
  · rw [toList_pointing, idxOf?_of_not_mem _ _ (not_mem_blanks (by decide) _)]
    simp

theorem clean_lines (heading : '\n' ∉ (heading e).toList) (name : '\n' ∉ file.toList)
    (text : '\n' ∉ (shown line).toList) : ∀ l ∈ lines e file line, '\n' ∉ l.toList := by
  have number : '\n' ∉ (toString e.position.line).toList := not_mem_number (by decide)
  simp only [lines, List.forall_mem_cons]
  refine ⟨heading, ?_, ?_, ?_, ?_, by simp⟩
  · simpa using name
  · simp [toList_gutter]
  · rw [toList_numbered]
    simpa using ⟨number, text⟩
  · rw [toList_pointing]
    simp [List.mem_replicate]

/-! ## Where the caret points -/

/-- How many characters the excerpt takes off the beginning of a line. -/
def indent (line : String) : Nat := (line.toList.takeWhile isIndent).length

/-- The indent may be taken off by bytes as well: where it ends a character begins. -/
theorem isValid_indent (line : String) : String.Pos.Raw.IsValid line ⟨indent line⟩ := by
  have bytes : ∀ cs : List Char, (∀ c ∈ cs, isIndent c = true) →
      (String.ofList cs).utf8ByteSize = cs.length := by
    intro cs all
    induction cs with
    | nil => rfl
    | cons c cs ih =>
      obtain ⟨blank, all⟩ := List.forall_mem_cons.mp all
      have one : c.utf8Size = 1 := by
        simp only [isIndent, Bool.or_eq_true, beq_iff_eq] at blank
        rcases blank with rfl | rfl <;> rfl
      rw [String.ofList_cons, String.utf8ByteSize_append, ih all, String.utf8ByteSize_singleton,
        one, List.length_cons, Nat.add_comm]
  rw [String.Pos.Raw.isValid_iff_exists_take_toList]
  refine ⟨indent line, ?_⟩
  have taken : line.toList.take (indent line) = line.toList.takeWhile isIndent :=
    (List.prefix_iff_eq_take.mp (List.takeWhile_prefix _)).symm
  rw [taken, bytes _ (List.all_eq_true.mp List.all_takeWhile)]
  rfl

/-- The text is five lines and nothing else. The bars of the last three stand in the column `bar`.
The last ends in a caret, under the character of `source` that `i` others stand before; or the line
above is too short for that, since nothing but blanks is left of the line or of the source there. -/
def PointsAt (text : String) (bar : Nat) (source : List Char) (i : Nat) (fault : Fault) : Prop :=
  ∃ heading place empty shown caret : List Char,
    text.toList.splitOn '\n' = [heading, place, empty, shown, caret, []] ∧
    (∀ line ∈ [empty, shown, caret], line.idxOf? '|' = some bar) ∧
    caret.getLast? = some '^' ∧
    (caret.length ≤ shown.length → shown[caret.length - 1]? = source[i]?) ∧
    (shown.length < caret.length → fault = .unexpectedEndOfInput ∨ source[i]? = some '\n' ∨
      ∃ c, source[i]? = some c ∧ ∀ d ∈ firstLine (source.drop i), Text.isBlank d = true)

end Lexical.Excerpt
