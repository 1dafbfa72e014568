import Lexical.Grammar
import Lexical.Proofs.CharClass
import Lexical.Proofs.LongestRun

/-! The front of a text, behind all blanks and comments.

* `Fits`: a token of the grammar with a neighbour that may follow it;
* `Diagnosis`: the six ways in which the front of a text is no token;
* `exists_front`: one or the other stands at the front of every text;
* `ofText_of_fits`, `ofText_of_diagnosis`: the cut of the text tells which, so there is no choice.
-/
namespace Lexical.Grammar

open Direct (Cut exists_run)

/-- Nothing that follows such a token could belong to it, so it needs nothing behind it. -/
def IsClosed (t : Token) : Prop :=
  t.kind = .mathOperator ∨ t.kind = .parenthesis ∨ t.kind = .relOperator ∧ t.text.length = 2

/-- The token may stand right before `rest`. -/
structure Fits (t : Token) (rest : List Char) : Prop where
  formed : WellFormed t
  apart : ∀ c ∈ rest.head?, MayFollow t c
  closed : rest = [] → IsClosed t

/-- A lexeme that waits for the character behind it. -/
inductive Unended : List Char → Prop
  | word {cs : List Char} (is : IsWord cs) : Unended cs
  | integer {cs : List Char} (is : IsInteger cs) : Unended cs
  | fraction {whole part : List Char} (before : ∀ c ∈ whole, isDigit c = true)
      (behind : ∀ c ∈ part, isDigit c = true) : Unended (whole ++ '.' :: part)
  | operator {c : Char} (is : isRelOperator c = true) : Unended [c]

/-- What is wrong with the front of a text, which lexeme was read until then, which character behind
it was read as well, and the part of the text before the character where the fault was met. -/
inductive Diagnosis : List Char → Fault → List Char → List Char → List Char → Prop
  | invalidCharacter {c : Char} {more : List Char} (invalid : isInvalid c = true) :
      Diagnosis (c :: more) (.invalidCharacter c) [] [c] []
  | malformedIdentifier {word : List Char} {c : Char} {more : List Char} (is : IsWord word)
      (invalid : isInvalid c = true) :
      Diagnosis (word ++ c :: more) (.malformedIdentifier c) word [c] word
  | unexpectedCharacter {digits : List Char} {c : Char} {more : List Char} (is : IsInteger digits)
      (stray : (isLetter c || isInvalid c) = true) :
      Diagnosis (digits ++ c :: more) (.malformedNumber (.unexpectedCharacter c)) digits [c] digits
  | trailingPoint {whole : List Char} {c : Char} {more : List Char}
      (before : ∀ d ∈ whole, isDigit d = true) (noDigit : isDigit c = false)
      (noPoint : isPoint c = false) :
      Diagnosis (whole ++ '.' :: c :: more) (.malformedNumber .trailingPoint) (whole ++ ['.']) [c]
        (whole ++ ['.'])
  | tooManyPoints {whole part more : List Char} (before : ∀ c ∈ whole, isDigit c = true)
      (behind : ∀ c ∈ part, isDigit c = true) :
      Diagnosis (whole ++ '.' :: (part ++ '.' :: more)) (.malformedNumber .tooManyPoints)
        (whole ++ '.' :: (part ++ ['.'])) [] (whole ++ '.' :: part)
  | unexpectedEndOfInput {lexeme : List Char} (waits : Unended lexeme) :
      Diagnosis lexeme .unexpectedEndOfInput lexeme [] lexeme

variable {cs rest more whole part lexeme lost place : List Char} {c : Char} {t : Token}
  {fault : Fault}

/-! ## Words and digits -/

theorem IsWord.parts (h : IsWord cs) : ∀ c ∈ cs, isWordPart c = true := by
  obtain ⟨c, rest, rfl, first, parts⟩ := h
  intro d hd
  rcases List.mem_cons.mp hd with rfl | hd
  · rcases Bool.or_eq_true_iff.mp first with h | h <;> simp [isWordPart, h]
  · exact parts d hd

theorem isWord_of_reserved (h : String.ofList cs ∈ reservedWords) : IsWord cs := by
  have spelled {w : String} (c : Char) (rest : List Char) (split : w.toList = c :: rest)
      (first : (isLetter c || isUnderscore c) = true) (parts : rest.all isWordPart = true) :
      IsWord w.toList := ⟨c, rest, split, first, List.all_eq_true.mp parts⟩
  have words : ∀ w ∈ reservedWords, IsWord w.toList := by
    simp only [reservedWords, List.forall_mem_cons]
    refine ⟨?_, ?_, ?_, ?_, ?_, by simp⟩
    · exact spelled 'e' ['l', 's', 'e'] rfl rfl rfl
    · exact spelled 'f' ['l', 'o', 'a', 't'] rfl rfl rfl
    · exact spelled 'i' ['f'] rfl rfl rfl
    · exact spelled 'i' ['n', 't'] rfl rfl rfl
    · exact spelled 'p' ['r', 'i', 'n', 't'] rfl rfl rfl
  rw [← String.toList_ofList (l := cs)]
  exact words _ h

theorem ofText_word (is : IsWord cs) : Cut.ofText (cs ++ rest) = Cut.word (cs ++ rest) := by
  obtain ⟨c, cs, rfl, first, -⟩ := is
  rw [List.cons_append, Cut.ofText]
  rcases Bool.or_eq_true_iff.mp first with h | h
  · rw [CharClass.ofChar_of_test (k := .letter) h (by simp)]
  · rw [CharClass.ofChar_of_test (k := .underscore) h (by simp)]

theorem ofText_integer (is : IsInteger cs) : Cut.ofText (cs ++ rest) = Cut.number (cs ++ rest) := by
  cases cs with
  | nil => exact absurd rfl is.1
  | cons c cs =>
    rw [List.cons_append, Cut.ofText,
      CharClass.ofChar_of_test (k := .digit) (is.2 c (by simp)) (by simp)]

theorem ofText_fraction (before : ∀ c ∈ whole, isDigit c = true) :
    Cut.ofText (whole ++ '.' :: cs) = Cut.fraction whole cs := by
  cases whole with
  | nil => rfl
  | cons c whole =>
    have stop : ∀ d ∈ ('.' :: cs).head?, isDigit d = false := by simp; decide
    rw [ofText_integer ⟨by simp, before⟩, Cut.number_run before stop]
    rfl

/-! ## The cut of the front -/

theorem ofText_word_before (is : IsWord cs) (noPart : isWordPart c = false)
    (valid : isInvalid c = false) :
    Cut.ofText (cs ++ c :: more) = Cut.token cs (.ofWord (String.ofList cs)) := by
  rw [ofText_word is, Cut.word_run is.parts (by simpa using noPart)]
  simp [valid]

theorem ofText_integer_before (is : IsInteger cs) (noDigit : isDigit c = false)
    (noPoint : isPoint c = false) (noLetter : isLetter c = false) (valid : isInvalid c = false) :
    Cut.ofText (cs ++ c :: more) = Cut.token cs .number := by
  rw [ofText_integer is, Cut.number_run is.2 (by simpa using noDigit)]
  simp [noPoint, noLetter, valid]

theorem ofText_fraction_before (before : ∀ c ∈ whole, isDigit c = true) (behind : IsInteger part)
    (noDigit : isDigit c = false) (noPoint : isPoint c = false) :
    Cut.ofText (whole ++ '.' :: part ++ c :: more) = Cut.token (whole ++ '.' :: part) .number := by
  have full : part.isEmpty = false := by simpa using behind.1
  rw [List.append_assoc, List.cons_append, ofText_fraction before,
    Cut.fraction_run behind.2 (by simpa using noDigit)]
  simp [noPoint, full]

theorem ofText_operator_before {d : Char} (op : d = '<' ∨ d = '>' ∨ d = '!')
    (noEqual : isAssignment c = false) :
    Cut.ofText (d :: c :: more) = Cut.token [d] .relOperator := by
  have cut : Cut.ofText (d :: c :: more) = Cut.operator .relOperator d (c :: more) := by
    rcases op with rfl | rfl | rfl <;> rfl
  rw [cut, Cut.operator, noEqual]
  rfl

/-- A closed token is cut off whatever follows it. -/
theorem ofText_of_isClosed (formed : WellFormed t) (closed : IsClosed t) :
    Cut.ofText (t.text.toList ++ rest) = Cut.token t.text.toList t.kind := by
  obtain ⟨kind, text⟩ := t
  rcases closed with h | h | ⟨h, two⟩ <;> cases h
  · obtain ⟨c, e, is⟩ := formed
    rw [e, List.singleton_append, Cut.ofText,
      CharClass.ofChar_of_test (k := .mathOperator) is (by simp)]
  · obtain ⟨c, e, is⟩ := formed
    rw [e, List.singleton_append, Cut.ofText,
      CharClass.ofChar_of_test (k := .parenthesis) is (by simp)]
  · have size : text.toList.length = 2 := String.length_toList.trans two
    rcases formed with e | e | e | e | e | e | e <;> simp only [e] at size ⊢
    case inr.inr.inr.inr.inl | inr.inr.inr.inr.inr.inl | inr.inr.inr.inr.inr.inr => simp at size
    all_goals rfl

/-- Any other token is cut off before a character that may follow it. -/
theorem ofText_of_mayFollow (formed : WellFormed t) (waits : ¬IsClosed t)
    (follows : MayFollow t c) :
    Cut.ofText (t.text.toList ++ c :: more) = Cut.token t.text.toList t.kind := by
  obtain ⟨kind, text⟩ := t
  obtain ⟨cs, rfl⟩ : ∃ cs, text = String.ofList cs := ⟨text.toList, by simp⟩
  simp only [WellFormed, MayFollow, String.toList_ofList] at formed follows ⊢
  cases kind with
  | identifier =>
    rw [ofText_word_before formed.1 follows.1 follows.2]
    simp [TokenKind.ofWord, isReserved, formed.2]
  | reserved =>
    rw [ofText_word_before (isWord_of_reserved formed) follows.1 follows.2]
    simp only [Shape] at formed
    simp [TokenKind.ofWord, isReserved, formed]
  | number =>
    rcases formed with is | ⟨whole, part, rfl, before, behind⟩
    · have plain : '.' ∉ cs := fun point => absurd (is.2 _ point) (by decide)
      rw [if_neg plain] at follows
      obtain ⟨noDigit, noPoint, noLetter, valid⟩ := follows
      exact ofText_integer_before is noDigit noPoint noLetter valid
    · rw [if_pos (by simp)] at follows
      exact ofText_fraction_before before behind follows.1 follows.2
  | assignment =>
    cases formed
    change Cut.operator .assignment '=' (c :: more) = _
    rw [Cut.operator, follows]
    rfl
  | relOperator =>
    have noEqual (d : Char) (is : cs = [d]) : isAssignment c = false :=
      follows (by rw [is, String.length_ofList]; rfl)
    have single (two : cs.length = 2) : False :=
      waits (.inr (.inr ⟨rfl, String.length_ofList.trans two⟩))
    rcases formed with rfl | rfl | rfl | rfl | rfl | rfl | rfl
    · exact (single rfl).elim
    · exact (single rfl).elim
    · exact (single rfl).elim
    · exact (single rfl).elim
    · exact ofText_operator_before (by simp) (noEqual _ rfl)
    · exact ofText_operator_before (by simp) (noEqual _ rfl)
    · exact ofText_operator_before (by simp) (noEqual _ rfl)
  | mathOperator => exact absurd (.inl rfl) waits
  | parenthesis => exact absurd (.inr (.inl rfl)) waits

/-- A token that fits before what follows it is what the text is cut to. -/
theorem ofText_of_fits (h : Fits t rest) :
    Cut.ofText (t.text.toList ++ rest) = Cut.token t.text.toList t.kind := by
  by_cases closed : IsClosed t
  · exact ofText_of_isClosed h.formed closed
  · cases rest with
    | nil => exact absurd (h.closed rfl) closed
    | cons c more => exact ofText_of_mayFollow h.formed closed (h.apart c rfl)

/-- The place of a fault in the text, told from the fault and the lexeme. -/
def placeOf (fault : Fault) (lexeme : List Char) : List Char :=
  if fault = .malformedNumber .tooManyPoints then lexeme.dropLast else lexeme

theorem ofText_of_unended (h : Unended cs) : Cut.ofText cs = Cut.unended cs := by
  cases h with
  | word is =>
    have cut : Cut.ofText (cs ++ []) = Cut.word (cs ++ []) := ofText_word is
    rw [Cut.word_run is.parts (by simp)] at cut
    simpa using cut
  | integer is =>
    have cut : Cut.ofText (cs ++ []) = Cut.number (cs ++ []) := ofText_integer is
    rw [Cut.number_run is.2 (by simp)] at cut
    simpa using cut
  | @fraction whole part before behind =>
    have cut : Cut.fraction whole (part ++ []) = Cut.unended (whole ++ '.' :: part) :=
      Cut.fraction_run behind (by simp)
    rwa [List.append_nil, ← ofText_fraction before] at cut
  | @operator c is =>
    simp only [isRelOperator, Bool.or_eq_true, beq_iff_eq] at is
    rcases is with ((rfl | rfl) | rfl) | rfl <;> rfl

/-- A diagnosed text is cut to the lexeme, the fault and the character that is lost. -/
theorem ofText_of_diagnosis (h : Diagnosis cs fault lexeme lost place) :
    Cut.ofText cs = ⟨lexeme, .fault fault, lost⟩ := by
  cases h with
  | @invalidCharacter c more invalid =>
    rw [Cut.ofText, CharClass.ofChar_of_test (k := .invalid) invalid (by simp)]
  | @malformedIdentifier _ c more is invalid =>
    have stop : ∀ d ∈ (c :: more).head?, isWordPart d = false := by
      simpa using CharClass.isWordPart_of_isInvalid invalid
    rw [ofText_word is, Cut.word_run is.parts stop]
    simp [invalid]
  | @unexpectedCharacter _ c more is stray =>
    obtain ⟨noDigit, noPoint⟩ := CharClass.not_numeric_of_stray stray
    rw [ofText_integer is, Cut.number_run is.2 (by simpa using noDigit)]
    simp only [noPoint, stray]
    rfl
  | @trailingPoint whole c more before noDigit noPoint =>
    have stop : ∀ d ∈ (c :: more).head?, isDigit d = false := by simpa using noDigit
    have cut : Cut.fraction whole ([] ++ c :: more) = _ := Cut.fraction_run (by simp) stop
    rw [List.nil_append] at cut
    rw [ofText_fraction before, cut]
    simp [noPoint]
  | @tooManyPoints whole part more before behind =>
    have stop : ∀ d ∈ ('.' :: more).head?, isDigit d = false := by simp; decide
    rw [ofText_fraction before, Cut.fraction_run behind stop]
    simp [isPoint]
  | unexpectedEndOfInput waits => exact ofText_of_unended waits

theorem Diagnosis.place_eq (h : Diagnosis cs fault lexeme lost place) :
    place = placeOf fault lexeme := by
  cases h with
  | @tooManyPoints whole part =>
    rw [placeOf, if_pos rfl, ← List.cons_append, ← List.append_assoc, List.dropLast_concat]
  | _ => rfl

theorem Diagnosis.place_prefix (h : Diagnosis cs fault lexeme lost place) : place <+: cs := by
  cases h with
  | invalidCharacter => exact List.nil_prefix
  | malformedIdentifier | unexpectedCharacter => exact List.prefix_append _ _
  | @trailingPoint whole c more => exact ⟨c :: more, by simp⟩
  | @tooManyPoints whole part more => exact ⟨'.' :: more, by simp⟩
  | unexpectedEndOfInput => exact List.prefix_rfl

theorem Diagnosis.ne_nil (h : Diagnosis cs fault lexeme lost place) : cs ≠ [] := by
  rintro rfl
  cases (ofText_of_diagnosis h)

/-- The six shapes exclude each other. -/
theorem Diagnosis.unique {fault' : Fault} {lexeme' lost' place' : List Char}
    (h : Diagnosis cs fault lexeme lost place) (h' : Diagnosis cs fault' lexeme' lost' place') :
    fault = fault' ∧ lexeme = lexeme' ∧ lost = lost' ∧ place = place' := by
  have cut := ofText_of_diagnosis h
  rw [ofText_of_diagnosis h'] at cut
  injection cut with sameLexeme sameVerdict sameLost
  injection sameVerdict with sameFault
  exact ⟨sameFault.symm, sameLexeme.symm, sameLost.symm,
    by rw [h.place_eq, h'.place_eq, sameFault, sameLexeme]⟩

/-! ## One of both -/

/-- A fitting token or a diagnosis stands at the front. -/
def HasFront (cs : List Char) : Prop :=
  (∃ t rest, cs = t.text.toList ++ rest ∧ Fits t rest) ∨
    ∃ fault lexeme lost place, Diagnosis cs fault lexeme lost place

theorem hasFront_of_fits {kind : TokenKind} (h : Fits ⟨kind, String.ofList cs⟩ rest) :
    HasFront (cs ++ rest) := .inl ⟨_, rest, by simp, h⟩

theorem hasFront_of_unended (h : Unended cs) : HasFront cs :=
  .inr ⟨_, _, _, _, .unexpectedEndOfInput h⟩

theorem wellFormed_ofWord (is : IsWord cs) :
    WellFormed ⟨.ofWord (String.ofList cs), String.ofList cs⟩ := by
  by_cases reserved : String.ofList cs ∈ reservedWords
  · simp [WellFormed, Shape, TokenKind.ofWord, isReserved, reserved]
  · simpa [WellFormed, Shape, TokenKind.ofWord, isReserved, reserved] using is

theorem hasFront_word (is : IsWord cs) (stop : ∀ c ∈ rest.head?, isWordPart c = false) :
    HasFront (cs ++ rest) := by
  cases rest with
  | nil => simpa using hasFront_of_unended (.word is)
  | cons c more =>
    have noPart := stop c rfl
    cases invalid : isInvalid c with
    | true => exact .inr ⟨_, _, _, _, .malformedIdentifier is invalid⟩
    | false =>
      have follows : MayFollow ⟨.ofWord (String.ofList cs), String.ofList cs⟩ c := by
        cases reserved : isReserved (String.ofList cs) <;>
          simp [MayFollow, TokenKind.ofWord, reserved, noPart, invalid]
      exact hasFront_of_fits ⟨wellFormed_ofWord is, by rintro d ⟨⟩; exact follows, by simp⟩

theorem hasFront_fraction (before : ∀ c ∈ whole, isDigit c = true) (cs : List Char) :
    HasFront (whole ++ '.' :: cs) := by
  obtain ⟨part, rest, rfl, behind, stop⟩ := exists_run isDigit cs
  cases rest with
  | nil => simpa using hasFront_of_unended (.fraction before behind)
  | cons c more =>
    have noDigit := stop c rfl
    cases point : isPoint c with
    | true =>
      cases beq_iff_eq.mp point
      exact .inr ⟨_, _, _, _, .tooManyPoints before behind⟩
    | false =>
      by_cases empty : part = []
      · subst empty
        exact .inr ⟨_, _, _, _, .trailingPoint before noDigit point⟩
      · have formed : WellFormed ⟨.number, String.ofList (whole ++ '.' :: part)⟩ := by
          simpa [WellFormed, Shape] using .inr ⟨whole, part, rfl, before, empty, behind⟩
        have fits : Fits ⟨.number, String.ofList (whole ++ '.' :: part)⟩ (c :: more) :=
          ⟨formed, by simp [MayFollow, noDigit, point], by simp⟩
        simpa using hasFront_of_fits fits

theorem hasFront_integer (is : IsInteger cs) (stop : ∀ c ∈ rest.head?, isDigit c = false) :
    HasFront (cs ++ rest) := by
  cases rest with
  | nil => simpa using hasFront_of_unended (.integer is)
  | cons c more =>
    have noDigit := stop c rfl
    cases point : isPoint c with
    | true =>
      cases beq_iff_eq.mp point
      exact hasFront_fraction is.2 more
    | false =>
      cases stray : isLetter c || isInvalid c with
      | true => exact .inr ⟨_, _, _, _, .unexpectedCharacter is stray⟩
      | false =>
        have plain : '.' ∉ cs := fun point => absurd (is.2 _ point) (by decide)
        have formed : WellFormed ⟨.number, String.ofList cs⟩ := by
          simpa [WellFormed, Shape] using .inl is
        obtain ⟨noLetter, valid⟩ := Bool.or_eq_false_iff.mp stray
        refine hasFront_of_fits ⟨formed, ?_, by simp⟩
        simp [MayFollow, plain, noDigit, point, noLetter, valid]

theorem hasFront_operator (is : isRelOperator c = true) (cs : List Char) :
    HasFront (c :: cs) := by
  cases cs with
  | nil => exact hasFront_of_unended (.operator is)
  | cons d more =>
    simp only [isRelOperator, Bool.or_eq_true, beq_iff_eq] at is
    cases eq : isAssignment d with
    | true =>
      cases beq_iff_eq.mp eq
      have formed : WellFormed ⟨.relOperator, String.ofList [c, '=']⟩ := by
        simp only [WellFormed, Shape, String.toList_ofList]
        grind
      have closed : IsClosed ⟨.relOperator, String.ofList [c, '=']⟩ :=
        .inr (.inr ⟨rfl, String.length_ofList⟩)
      exact hasFront_of_fits ⟨formed, by simp [MayFollow], fun _ => closed⟩
    | false =>
      by_cases assigns : c = '='
      · have fits : Fits ⟨.assignment, String.ofList [c]⟩ (d :: more) :=
          ⟨by simp [WellFormed, Shape, assigns], by simp [MayFollow, eq], by simp⟩
        exact hasFront_of_fits fits
      · have formed : WellFormed ⟨.relOperator, String.ofList [c]⟩ := by
          simp only [WellFormed, Shape, String.toList_ofList]
          grind
        exact hasFront_of_fits ⟨formed, by simp [MayFollow, eq], by simp⟩

/-- A text that begins with neither a blank nor a comment begins with a token or is diagnosed. -/
theorem exists_front (blank : isWhitespace c = false) (comment : isCommentStart c = false)
    (cs : List Char) : HasFront (c :: cs) := by
  have passes := CharClass.test_ofChar c
  cases k : CharClass.ofChar c <;> simp only [k, CharClass.test] at passes
  case whitespace => simp [passes] at blank
  case commentStart => simp [passes] at comment
  case letter | underscore =>
    obtain ⟨run, rest, rfl, inside, stop⟩ := exists_run isWordPart cs
    have is : IsWord (c :: run) := ⟨c, run, rfl, by simp [passes], inside⟩
    exact hasFront_word is stop
  case digit =>
    obtain ⟨run, rest, rfl, inside, stop⟩ := exists_run isDigit cs
    have is : IsInteger (c :: run) := ⟨by simp, by simpa [passes] using inside⟩
    exact hasFront_integer is stop
  case point =>
    cases beq_iff_eq.mp passes
    show HasFront ([] ++ '.' :: cs)
    exact hasFront_fraction (by simp) cs
  case assignment => exact hasFront_operator (by simp_all [isRelOperator, isAssignment]) cs
  case relOperator => exact hasFront_operator passes cs
  case mathOperator =>
    have fits : Fits ⟨.mathOperator, String.ofList [c]⟩ cs :=
      ⟨by simpa [WellFormed, Shape] using passes, by simp [MayFollow], by simp [IsClosed]⟩
    exact hasFront_of_fits fits
  case parenthesis =>
    have fits : Fits ⟨.parenthesis, String.ofList [c]⟩ cs :=
      ⟨by simpa [WellFormed, Shape] using passes, by simp [MayFollow], by simp [IsClosed]⟩
    exact hasFront_of_fits fits
  case invalid => exact .inr ⟨_, _, _, _, .invalidCharacter passes⟩

end Lexical.Grammar
