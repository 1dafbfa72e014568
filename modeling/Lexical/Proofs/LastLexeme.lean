import Lexical.Proofs.LineByLine

/-! A line feed behind a source.

Where the source ended within a lexeme, the line feed stands behind the lexeme and settles it. What
came before that stays as it was, and so does a source that ended anywhere else. -/
namespace Lexical

open Grammar

/-- The kind of a lexeme that waits for the character behind it, told from its first character and,
for words, from the reserved words. -/
def TokenKind.ofBegun (lexeme : String) : TokenKind :=
  match lexeme.toList.head?.map CharClass.ofChar with
  | some .letter | some .underscore => .ofWord lexeme
  | some .assignment => .assignment
  | some .relOperator => .relOperator
  | _ => .number

namespace Grammar

variable {gap text rest rest' more before front lexeme lost place : List Char}
  {ts us tokens : List Token} {t : Token} {fault : Fault}

/-! ## Layouts behind layouts -/

/-- A line feed closes the comment that the end of the source would have closed. -/
theorem FinalTrivia.lineFeed (h : FinalTrivia gap) : Trivia (gap ++ ['\n']) := by
  rcases h with blank | ⟨before, last, rfl, blank, is⟩
  · exact blank.append (.blank rfl .nil)
  · rw [List.append_assoc]
    exact blank.append (.comment is rfl .nil)

/-- Text may be appended to what stands behind a layout. -/
theorem Layout.append (h : Layout rest ts text) (more : List Char)
    (ends : rest = [] → ∀ t ∈ ts.getLast?, IsClosed t) :
    Layout (rest ++ more) ts (text ++ more) := by
  induction h with
  | nil => exact .nil
  | @cons trivia t ts cs blank formed apart laid ih =>
    have fits := (fits_of_layout formed apart laid ends).append more
    rw [List.append_assoc]
    exact .cons blank fits.formed fits.apart (ih (isClosed_of_tail ends))

/-- What stands behind a layout may be laid out, too. -/
theorem Layout.trans (h : Layout rest ts text) (h' : Layout rest' us rest) :
    Layout rest' (ts ++ us) text := by
  induction h with
  | nil => exact h'
  | cons blank formed apart _ ih => exact .cons blank formed apart ih

theorem IsLayout.lineFeed (h : IsLayout ts text) : IsLayout ts (text ++ ['\n']) := by
  obtain ⟨final, trivia, layout, ends⟩ := h
  refine ⟨final ++ ['\n'], .inl trivia.lineFeed, layout.append ['\n'] ends, ?_⟩
  intro none
  simp at none

theorem LeadsTo.append (h : LeadsTo text before front ts) (some : front ≠ [])
    (more : List Char) : LeadsTo (text ++ more) before (front ++ more) ts := by
  obtain ⟨split, gap, blank, layout⟩ := h
  refine ⟨by rw [split, List.append_assoc], gap, blank, ?_⟩
  rw [← List.append_assoc]
  apply layout.append
  intro none
  exact absurd (List.append_eq_nil_iff.mp none).2 some

/-- A token that a layout leads to is the next one. -/
theorem LeadsTo.isLayout (h : LeadsTo text before (t.text.toList ++ rest) ts) (fits : Fits t rest)
    (final : FinalTrivia rest) (some : rest ≠ []) : IsLayout (ts ++ [t]) text := by
  obtain ⟨-, gap, blank, layout⟩ := h
  refine ⟨rest, final, ?_, fun none => absurd none some⟩
  rw [← List.append_assoc] at layout
  exact layout.trans (.cons blank fits.formed fits.apart .nil)

/-! ## The lexeme that the source broke off -/

theorem fits_lineFeed (formed : WellFormed t) : Fits t ['\n'] := by
  refine ⟨formed, ?_, by simp⟩
  intro c first
  cases first
  exact mayFollow_of_separator (.inl rfl)

theorem ofBegun_of_numeric {c : Char} {cs : List Char} (is : isDigit c = true ∨ c = '.') :
    TokenKind.ofBegun (String.ofList (c :: cs)) = .number := by
  have passes : CharClass.ofChar c = .digit ∨ CharClass.ofChar c = .point := by
    rcases is with is | rfl
    · exact .inl (CharClass.ofChar_of_test (k := .digit) is (by simp))
    · exact .inr rfl
  rcases passes with k | k <;> simp [TokenKind.ofBegun, k]

theorem ofBegun_of_isWord {cs : List Char} (is : IsWord cs) :
    TokenKind.ofBegun (String.ofList cs) = .ofWord (String.ofList cs) := by
  obtain ⟨c, rest, rfl, first, -⟩ := is
  have passes : CharClass.ofChar c = .letter ∨ CharClass.ofChar c = .underscore := by
    rcases Bool.or_eq_true_iff.mp first with h | h
    · exact .inl (CharClass.ofChar_of_test (k := .letter) h (by simp))
    · exact .inr (CharClass.ofChar_of_test (k := .underscore) h (by simp))
  rcases passes with k | k <;> simp [TokenKind.ofBegun, k]

/-- The lexeme is a token as soon as it is not the source that ends it, unless it ends in a
point. -/
theorem Unended.cases_point (h : Unended lexeme) :
    (∃ whole, lexeme = whole ++ ['.'] ∧ ∀ c ∈ whole, isDigit c = true) ∨
      lexeme.getLast? ≠ some '.' ∧
        WellFormed ⟨.ofBegun (String.ofList lexeme), String.ofList lexeme⟩ := by
  have noPoint {cs : List Char} (plain : '.' ∉ cs) : cs.getLast? ≠ some '.' :=
    fun last => plain (List.mem_of_getLast? last)
  cases h with
  | word is =>
    right
    constructor
    · apply noPoint
      intro point
      exact absurd (is.parts _ point) (by decide)
    · rw [ofBegun_of_isWord is]
      exact wellFormed_ofWord is
  | integer is =>
    right
    constructor
    · apply noPoint
      intro point
      exact absurd (is.2 _ point) (by decide)
    · cases lexeme with
      | nil => exact absurd rfl is.1
      | cons c cs =>
        rw [ofBegun_of_numeric (.inl (is.2 c List.mem_cons_self))]
        simpa [WellFormed, Shape] using .inl is
  | @fraction whole part before behind =>
    by_cases empty : part = []
    · left
      exact ⟨whole, by rw [empty], before⟩
    · right
      constructor
      · have last : (whole ++ '.' :: part).getLast? = part.getLast? := by
          rw [List.append_cons, List.getLast?_append_of_ne_nil _ empty]
        rw [last]
        apply noPoint
        intro point
        exact absurd (behind _ point) (by decide)
      · have number : TokenKind.ofBegun (String.ofList (whole ++ '.' :: part)) = .number := by
          cases whole with
          | nil => exact ofBegun_of_numeric (.inr rfl)
          | cons c cs => exact ofBegun_of_numeric (.inl (before c List.mem_cons_self))
        rw [number]
        simpa [WellFormed, Shape] using .inr ⟨whole, part, rfl, before, empty, behind⟩
  | @operator c is =>
    right
    simp only [isRelOperator, Bool.or_eq_true, beq_iff_eq] at is
    rcases is with ((rfl | rfl) | rfl) | rfl
    · exact ⟨by decide, rfl⟩
    all_goals
      refine ⟨by decide, ?_⟩
      change WellFormed ⟨.relOperator, _⟩
      simp [WellFormed, Shape]

end Grammar

variable {source : String} {file : Option String} {tokens : List Token} {e : ScanError}

theorem emitted_of_leadsTo {before front lexeme lost place : List Char} {fault : Fault}
    (h : LeadsTo source.toList before front tokens)
    (wrong : Diagnosis front fault lexeme lost place) :
    (Scanner.ofString source file).rest.emitted = tokens := by
  rw [Run.emitted, items_rest_of_leadsTo h wrong, List.filterMap_append, List.filterMap_map]
  simp [Function.comp_def, Except.toOption]

/-- The emitted tokens lead to the lexeme which the source breaks off. -/
theorem exists_unended {p : Position} {lexeme : String}
    (broken : tokenize source file = .error ⟨.unexpectedEndOfInput, p, lexeme⟩) :
    ∃ before, LeadsTo source.toList before lexeme.toList
        (Scanner.ofString source file).rest.emitted ∧
      Unended lexeme.toList ∧ p = .behind (before ++ lexeme.toList) := by
  obtain ⟨before, front, tokens, fault, text, lost, place, leads, wrong, same⟩ :=
    exists_leadsTo broken
  cases same
  cases wrong with
  | unexpectedEndOfInput waits =>
    have emitted : (Scanner.ofString source file).rest.emitted = tokens :=
      emitted_of_leadsTo leads (.unexpectedEndOfInput waits)
    rw [emitted, String.toList_ofList]
    exact ⟨before, leads, waits, rfl⟩

/-- Where it is not a lexeme that the source ends in, a line feed behind it adds nothing. -/
theorem tokenize_lineFeed (file' : Option String)
    (whole : ∀ e, tokenize source file = .error e → e.fault ≠ .unexpectedEndOfInput) :
    tokenize (source ++ "\n") file' = tokenize source file := by
  rcases exists_layout source.toList with
    ⟨tokens, laid⟩ | ⟨before, front, tokens, fault, lexeme, lost, place, leads, wrong⟩
  · have longer : IsLayout tokens (source ++ "\n").toList := by
      rw [String.toList_append]
      exact laid.lineFeed
    rw [tokenize_of_isLayout laid, tokenize_of_isLayout longer]
  · have fails : tokenize source file = _ := tokenize_of_leadsTo leads wrong
    have longer : LeadsTo (source ++ "\n").toList before (front ++ ['\n']) tokens := by
      rw [String.toList_append]
      exact leads.append wrong.ne_nil ['\n']
    rw [fails, tokenize_of_leadsTo longer (wrong.append ['\n'] (whole _ fails))]

/-- A source whose last line is ended ends in no lexeme. -/
theorem fault_ne_of_endsLine (ends : EndsLine source.toList)
    (fails : tokenize source file = .error e) : e.fault ≠ .unexpectedEndOfInput := by
  obtain ⟨before, front, tokens, fault, lexeme, lost, place, leads, wrong, rfl⟩ :=
    exists_leadsTo fails
  rw [leads.split] at ends
  exact ends.of_append.fault_ne wrong

/-- **Only a missing line feed breaks off a lexeme.** With a line feed behind it no source ends in
a lexeme, and nothing changes unless it did before. If it did, the lexeme becomes the last token,
behind the tokens that were emitted; only a number that ends in a point is still rejected, at the
same position, and now because of that point. -/
theorem lineFeed_settles_last_lexeme (source : String) (file file' : Option String) :
    (∀ e, tokenize (source ++ "\n") file' = .error e → e.fault ≠ .unexpectedEndOfInput) ∧
    ((∀ e, tokenize source file = .error e → e.fault ≠ .unexpectedEndOfInput) →
      tokenize (source ++ "\n") file' = tokenize source file) ∧
    ∀ p lexeme, tokenize source file = .error ⟨.unexpectedEndOfInput, p, lexeme⟩ →
      tokenize (source ++ "\n") file' =
        if lexeme.toList.getLast? = some '.' then
          .error ⟨.malformedNumber .trailingPoint, p, lexeme⟩
        else .ok ((Scanner.ofString source file).rest.emitted ++ [⟨.ofBegun lexeme, lexeme⟩]) := by
  have ends : EndsLine (source ++ "\n").toList := by
    rw [String.toList_append]
    intro c last
    simpa using last.symm
  refine ⟨fun e fails => fault_ne_of_endsLine ends fails, tokenize_lineFeed file', ?_⟩
  intro p lexeme broken
  obtain ⟨before, leads, waits, rfl⟩ := exists_unended broken
  have some : lexeme.toList ≠ [] := (Diagnosis.unexpectedEndOfInput waits).ne_nil
  have longer : LeadsTo (source ++ "\n").toList before (lexeme.toList ++ ['\n'])
      (Scanner.ofString source file).rest.emitted := by
    rw [String.toList_append]
    exact leads.append some ['\n']
  rcases waits.cases_point with ⟨whole, point, digits⟩ | ⟨noPoint, formed⟩
  · have wrong : Diagnosis (lexeme.toList ++ ['\n']) (.malformedNumber .trailingPoint)
        lexeme.toList ['\n'] lexeme.toList := by
      rw [point, List.append_assoc]
      exact .trailingPoint digits (by decide) (by decide)
    have last : lexeme.toList.getLast? = .some '.' := by rw [point, List.getLast?_concat]
    rw [if_pos last, tokenize_of_leadsTo longer wrong, String.ofList_toList]
  · rw [String.ofList_toList] at formed
    have feed : FinalTrivia ['\n'] := .inl (.blank rfl .nil)
    rw [if_neg noPoint]
    exact tokenize_of_isLayout (longer.isLayout (fits_lineFeed formed) feed (by simp))

/-- The number in the second line is broken off at its point, and the word is broken off although
it is reserved. -/
theorem lineFeed_settles_last_lexeme_behind_line :
    tokenize "x\n1." none = .error ⟨.unexpectedEndOfInput, ⟨2, 3⟩, "1."⟩ ∧
    tokenize ("x\n1." ++ "\n") none =
      .error ⟨.malformedNumber .trailingPoint, ⟨2, 3⟩, "1."⟩ ∧
    tokenize "x=if" none = .error ⟨.unexpectedEndOfInput, ⟨1, 5⟩, "if"⟩ ∧
    tokenize ("x=if" ++ "\n") none =
      .ok [⟨.identifier, "x"⟩, ⟨.assignment, "="⟩, ⟨.reserved, "if"⟩] ∧
    tokenize "x #" none = .ok [⟨.identifier, "x"⟩] ∧
    tokenize ("x #" ++ "\n") none = .ok [⟨.identifier, "x"⟩] := by
  have point : tokenize "x\n1." none = .error ⟨.unexpectedEndOfInput, ⟨2, 3⟩, "1."⟩ := by
    decide +kernel
  have word : tokenize "x=if" none = .error ⟨.unexpectedEndOfInput, ⟨1, 5⟩, "if"⟩ := by
    decide +kernel
  have comment : tokenize "x #" none = .ok [⟨.identifier, "x"⟩] := by decide +kernel
  have emitted : (Scanner.ofString "x=if" none).rest.emitted =
      [⟨.identifier, "x"⟩, ⟨.assignment, "="⟩] := by decide +kernel
  have broken := (lineFeed_settles_last_lexeme "x\n1." none none).2.2 _ _ point
  have ended := (lineFeed_settles_last_lexeme "x=if" none none).2.2 _ _ word
  have same := (lineFeed_settles_last_lexeme "x #" none none).2.1 (by simp [comment])
  rw [emitted] at ended
  exact ⟨point, broken, word, ended, comment, same.trans comment⟩

end Lexical
