import Lexical.Proofs.Streams

/-! Sources that are rewritten between their tokens only.

A rewriting may change what separates tokens, as long as something goes on to separate them. Then
two scanners, one over a source and one over the rewritten source, report the same.

* `Rewrites`: what a rewriting has to keep;
* `Rewrites.fits`, `Rewrites.diagnosis`: the front of a text is what it was;
* `Rewrites.nextToken`: so one call reports what it did;
* `Rewrites.drain`: and so do all calls up to an error. -/
namespace Lexical

open Direct (skip)
open Grammar
open Scanner (Between)

/-- Blanks and comment signs belong to no token and may follow any. -/
def isSeparator (c : Char) : Bool := isWhitespace c || isCommentStart c

/-- The function rewrites texts between their tokens only. It may lengthen or shorten what is
skipped before a token, but not so that the token moves to another place. -/
structure Rewrites (f : List Char → List Char) : Prop where
  nil : f [] = []
  keeps : ∀ c cs, isSeparator c = false → f (c :: cs) = c :: f cs
  separates : ∀ c cs, isSeparator c = true →
    ∃ d ds, f (c :: cs) = d :: ds ∧ isSeparator d = true
  skips : ∀ cs, skip (f cs) = f (skip cs)
  places : ∀ before before' front, (∀ c ∈ front.head?, isSeparator c = false) →
    f (before ++ front) = before' ++ f front → Position.behind before' = .behind before

variable {f : List Char → List Char} {cs rest run front lexeme lost place : List Char} {c : Char}
  {t : Token} {fault : Fault} {k : CharClass}

/-! ## Separators -/

theorem not_separator_of_test (h : k.test c = true) (blank : k ≠ .whitespace)
    (comment : k ≠ .commentStart) (other : k ≠ .relOperator) : isSeparator c = false := by
  have noBlank : isWhitespace c = false :=
    CharClass.test_of_other (l := .whitespace) h blank other (by simp)
  have noComment : isCommentStart c = false :=
    CharClass.test_of_other (l := .commentStart) h comment other (by simp)
  rw [isSeparator, noBlank, noComment, Bool.or_false]

theorem not_separator_of_isWordPart (h : isWordPart c = true) : isSeparator c = false := by
  have noBlank : isWhitespace c = false :=
    CharClass.test_of_isWordPart (l := .whitespace) h (by simp) (by simp)
  have noComment : isCommentStart c = false :=
    CharClass.test_of_isWordPart (l := .commentStart) h (by simp) (by simp)
  rw [isSeparator, noBlank, noComment, Bool.or_false]

theorem not_separator_of_isDigit (h : isDigit c = true) : isSeparator c = false :=
  not_separator_of_test (k := .digit) h (by simp) (by simp) (by simp)

theorem not_separator_of_isInvalid (h : isInvalid c = true) : isSeparator c = false :=
  not_separator_of_test (k := .invalid) h (by simp) (by simp) (by simp)

theorem not_separator_of_stray (h : (isLetter c || isInvalid c) = true) :
    isSeparator c = false := by
  rcases Bool.or_eq_true_iff.mp h with h | h
  · exact not_separator_of_test (k := .letter) h (by simp) (by simp) (by simp)
  · exact not_separator_of_isInvalid h

theorem not_numeric_of_separator (h : isSeparator c = true) :
    isDigit c = false ∧ isPoint c = false := by
  have other {k l : CharClass} (h : k.test c = true) (ne : k ≠ l) (hk : k ≠ .relOperator)
      (hl : l ≠ .relOperator) : l.test c = false := CharClass.test_of_other h ne hk hl
  rcases Bool.or_eq_true_iff.mp h with h | h
  · exact ⟨other (k := .whitespace) (l := .digit) h (by simp) (by simp) (by simp),
      other (k := .whitespace) (l := .point) h (by simp) (by simp) (by simp)⟩
  · exact ⟨other (k := .commentStart) (l := .digit) h (by simp) (by simp) (by simp),
      other (k := .commentStart) (l := .point) h (by simp) (by simp) (by simp)⟩

theorem Grammar.Unended.no_separator (h : Unended lexeme) :
    ∀ c ∈ lexeme, isSeparator c = false := by
  cases h with
  | word is => exact fun c mem => not_separator_of_isWordPart (is.parts c mem)
  | integer is => exact fun c mem => not_separator_of_isDigit (is.2 c mem)
  | fraction before behind =>
    intro c mem
    rcases List.mem_append.mp mem with mem | mem
    · exact not_separator_of_isDigit (before c mem)
    · rcases List.mem_cons.mp mem with rfl | mem
      · rfl
      · exact not_separator_of_isDigit (behind c mem)
  | @operator c is =>
    simp only [isRelOperator, Bool.or_eq_true, beq_iff_eq] at is
    rcases is with ((rfl | rfl) | rfl) | rfl <;> simp <;> rfl

/-- No lexeme has a separator in it. -/
theorem Grammar.Diagnosis.no_separator (h : Diagnosis cs fault lexeme lost place) :
    ∀ c ∈ lexeme, isSeparator c = false := by
  cases h with
  | invalidCharacter => simp
  | malformedIdentifier is => exact (Unended.word is).no_separator
  | unexpectedCharacter is => exact (Unended.integer is).no_separator
  | trailingPoint before => exact (Unended.fraction before (by simp)).no_separator
  | @tooManyPoints whole part _ before behind =>
    have split : whole ++ '.' :: (part ++ ['.']) = whole ++ '.' :: part ++ ['.'] := by simp
    rw [split, List.forall_mem_append]
    exact ⟨(Unended.fraction before behind).no_separator, List.forall_mem_singleton.mpr rfl⟩
  | unexpectedEndOfInput waits => exact waits.no_separator

theorem Grammar.Diagnosis.lost_cases (h : Diagnosis cs fault lexeme lost place) :
    lost = [] ∨ ∃ c, lost = [c] := by
  cases h with
  | tooManyPoints | unexpectedEndOfInput => exact .inl rfl
  | _ => exact .inr ⟨_, rfl⟩

/-- No token has a separator in it. -/
theorem Grammar.WellFormed.no_separator (h : WellFormed t) :
    ∀ c ∈ t.text.toList, isSeparator c = false := by
  obtain ⟨kind, text⟩ := t
  simp only [WellFormed] at h ⊢
  cases kind with
  | identifier => exact (Unended.word h.1).no_separator
  | reserved => exact (Unended.word (isWord_of_reserved h)).no_separator
  | number =>
    rcases h with is | ⟨whole, part, e, before, behind⟩
    · exact (Unended.integer is).no_separator
    · rw [e]
      exact (Unended.fraction before behind.2).no_separator
  | assignment =>
    rw [show text.toList = ['='] from h]
    exact List.forall_mem_singleton.mpr rfl
  | relOperator =>
    have operators : ∀ c ∈ text.toList, isRelOperator c = true := by
      rcases h with e | e | e | e | e | e | e <;> rw [e] <;> simp [isRelOperator]
    intro c mem
    exact (Unended.operator (operators c mem)).no_separator c (List.mem_singleton_self c)
  | mathOperator =>
    obtain ⟨c, e, is⟩ := h
    rw [e]
    simpa using not_separator_of_test (k := .mathOperator) is (by simp) (by simp) (by simp)
  | parenthesis =>
    obtain ⟨c, e, is⟩ := h
    rw [e]
    simpa using not_separator_of_test (k := .parenthesis) is (by simp) (by simp) (by simp)

/-! ## The front of a rewritten text -/

/-- What `skip` leaves begins with a token or is diagnosed, if anything is left. -/
theorem hasFront_skip (cs : List Char) : skip cs = [] ∨ HasFront (skip cs) := by
  have stop := Direct.head_skip cs
  cases left : skip cs with
  | nil => exact .inl rfl
  | cons c rest =>
    rw [left] at stop
    exact .inr (exists_front (stop c rfl).1 (stop c rfl).2 rest)

theorem head_skip_not_separator (cs : List Char) :
    ∀ c ∈ (skip cs).head?, isSeparator c = false := by
  intro c head
  have stop := Direct.head_skip cs c head
  rw [isSeparator, stop.1, stop.2, Bool.or_false]

namespace Rewrites

theorem keeps_append (h : Rewrites f) (solid : ∀ c ∈ run, isSeparator c = false) :
    f (run ++ rest) = run ++ f rest := by
  induction run with
  | nil => rfl
  | cons c run ih =>
    obtain ⟨here, later⟩ := List.forall_mem_cons.mp solid
    rw [List.cons_append, h.keeps c _ here, ih later, List.cons_append]

/-- Where a text goes on, the rewritten text goes on with the same character, or with a separator in
place of one. -/
theorem exists_cons (h : Rewrites f) (c : Char) (cs : List Char) :
    ∃ d ds, f (c :: cs) = d :: ds ∧ (d = c ∨ isSeparator c = true ∧ isSeparator d = true) := by
  cases separates : isSeparator c with
  | false => exact ⟨c, f cs, h.keeps c cs separates, .inl rfl⟩
  | true =>
    obtain ⟨d, ds, e, separates'⟩ := h.separates c cs separates
    exact ⟨d, ds, e, .inr ⟨rfl, separates'⟩⟩

theorem fits (h : Rewrites f) (fits : Fits t rest) : Fits t (f rest) := by
  cases rest with
  | nil => rwa [h.nil]
  | cons c rest =>
    obtain ⟨d, ds, e, same⟩ := h.exists_cons c rest
    rw [e]
    refine ⟨fits.formed, ?_, by simp⟩
    rintro _ ⟨⟩
    rcases same with rfl | ⟨-, separates⟩
    · exact fits.apart d rfl
    · apply mayFollow_of_separator
      simpa [isSeparator] using separates

/-- The same is wrong with the rewritten front, and as many characters are lost with it. -/
theorem diagnosis (h : Rewrites f) (wrong : Diagnosis front fault lexeme lost place) :
    ∃ lost', Diagnosis (f front) fault lexeme lost' place ∧ lost'.length = lost.length := by
  cases wrong with
  | @invalidCharacter c more invalid =>
    rw [h.keeps c more (not_separator_of_isInvalid invalid)]
    exact ⟨_, .invalidCharacter invalid, rfl⟩
  | @malformedIdentifier _ c more is invalid =>
    rw [h.keeps_append (Unended.word is).no_separator,
      h.keeps c more (not_separator_of_isInvalid invalid)]
    exact ⟨_, .malformedIdentifier is invalid, rfl⟩
  | @unexpectedCharacter _ c more is stray =>
    rw [h.keeps_append (Unended.integer is).no_separator,
      h.keeps c more (not_separator_of_stray stray)]
    exact ⟨_, .unexpectedCharacter is stray, rfl⟩
  | @trailingPoint whole c more before noDigit noPoint =>
    have point : Unended (whole ++ ['.']) := .fraction before (by simp)
    rw [List.append_cons, h.keeps_append point.no_separator, ← List.append_cons]
    obtain ⟨d, ds, e, same⟩ := h.exists_cons c more
    rw [e]
    rcases same with rfl | ⟨-, separates⟩
    · exact ⟨_, .trailingPoint before noDigit noPoint, rfl⟩
    · obtain ⟨noDigit, noPoint⟩ := not_numeric_of_separator separates
      exact ⟨_, .trailingPoint before noDigit noPoint, rfl⟩
  | @tooManyPoints whole part more before behind =>
    have number : Unended (whole ++ '.' :: part) := .fraction before behind
    have split (rest : List Char) :
        whole ++ '.' :: (part ++ '.' :: rest) = whole ++ '.' :: part ++ '.' :: rest := by simp
    rw [split, h.keeps_append number.no_separator, h.keeps '.' more rfl, ← split]
    exact ⟨_, .tooManyPoints before behind, rfl⟩
  | unexpectedEndOfInput waits =>
    have whole : f (front ++ []) = front ++ f [] := h.keeps_append waits.no_separator
    rw [h.nil, List.append_nil] at whole
    rw [whole]
    exact ⟨_, .unexpectedEndOfInput waits, rfl⟩

/-! ## Calls on both texts -/

variable {s u : Scanner} {read ahead read' ahead' : List Char}

/-- A call on the rewritten text reports what a call on the text does. Only behind an error may what
is left differ by more than the rewriting: then one character was lost before it in either text. -/
theorem nextToken (h : Rewrites f) (between : s.Between read ahead)
    (between' : u.Between read' ahead') (whole : f (read ++ ahead) = read' ++ ahead')
    (left : skip ahead' = f (skip ahead)) :
    u.nextToken.outcome = s.nextToken.outcome ∧
    ∃ before rest before' rest', s.nextToken.scanner.Between before rest ∧
      u.nextToken.scanner.Between before' rest' ∧ f (before ++ rest) = before' ++ rest' ∧
      (rest' = f rest ∨
        ∃ e c d, s.nextToken.outcome = .failure e ∧ f (c :: rest) = d :: rest') := by
  have stop := head_skip_not_separator ahead
  have front := hasFront_skip ahead
  obtain ⟨gap, split, final, closed⟩ := Direct.exists_gap ahead
  obtain ⟨gap', split', final', closed'⟩ := Direct.exists_gap ahead'
  rw [left] at split' closed'
  generalize skip ahead = text at split closed split' closed' stop front
  subst split split'
  have both : f (read ++ gap ++ text) = read' ++ gap' ++ f text := by
    rw [List.append_assoc, whole, List.append_assoc]
  have places := h.places _ _ text stop both
  rcases front with rfl | ⟨t, rest, rfl, fits⟩ | ⟨fault, lexeme, lost, place, wrong⟩
  · rw [List.append_nil] at between
    rw [h.nil, List.append_nil] at between'
    obtain ⟨outcome, after⟩ := between.nextToken_of_finalTrivia final
    obtain ⟨outcome', after'⟩ := between'.nextToken_of_finalTrivia final'
    rw [h.nil] at both
    exact ⟨outcome'.trans outcome.symm, _, _, _, _, after, after', both, .inl h.nil.symm⟩
  · have solid := fits.formed.no_separator
    have some : t.text.toList ++ rest ≠ [] := by simp [fits.formed.ne_nil]
    have some' : f (t.text.toList ++ rest) ≠ [] := by
      simp [h.keeps_append solid, fits.formed.ne_nil]
    rw [h.keeps_append solid] at between' both
    obtain ⟨outcome, after⟩ := between.nextToken_of_fits (closed some) fits
    obtain ⟨outcome', after'⟩ := between'.nextToken_of_fits (closed' some') (h.fits fits)
    refine ⟨outcome'.trans outcome.symm, _, _, _, _, after, after', ?_, .inl rfl⟩
    simpa using both
  · obtain ⟨lost', wrong', size⟩ := h.diagnosis wrong
    obtain ⟨outcome, rest, front, after⟩ :=
      between.nextToken_of_diagnosis (closed wrong.ne_nil) wrong
    obtain ⟨outcome', rest', front', after'⟩ :=
      between'.nextToken_of_diagnosis (closed' wrong'.ne_nil) wrong'
    have position : Position.behind (read' ++ gap' ++ place) = .behind (read ++ gap ++ place) := by
      rw [← Position.after_behind, places, Position.after_behind]
    rw [position, ← outcome] at outcome'
    refine ⟨outcome', _, _, _, _, after, after', ?_, ?_⟩
    · rw [front', front] at both
      simpa using both
    · rw [front, List.append_assoc, h.keeps_append wrong.no_separator, List.append_assoc] at front'
      have behind := List.append_cancel_left front'
      rcases wrong.lost_cases with rfl | ⟨c, rfl⟩
      · rw [List.length_eq_zero_iff.mp size] at behind
        exact .inl behind.symm
      · obtain ⟨d, rfl⟩ := List.length_eq_one_iff.mp size
        exact .inr ⟨_, c, d, outcome, behind⟩

/-- Both scanners find the same tokens up to the first error, and the same error. -/
theorem drain_eq (h : Rewrites f) (between : s.Between read ahead)
    (between' : u.Between read' ahead') (whole : f (read ++ ahead) = read' ++ ahead')
    (left : skip ahead' = f (skip ahead)) : u.drain = s.drain := by
  fun_induction Scanner.drain s generalizing u read ahead read' ahead' with
  | case1 s t outcome ih =>
    obtain ⟨same, _, rest, _, rest', after, after', whole', behind⟩ :=
      h.nextToken between between' whole left
    rw [outcome] at same behind
    have goesOn : rest' = f rest := behind.resolve_right (by simp)
    have left' : skip rest' = f (skip rest) := by rw [goesOn, h.skips]
    rw [Scanner.drain_of_token same, ih after after' whole' left']
  | case2 s e outcome =>
    have same := (h.nextToken between between' whole left).1
    exact Scanner.drain_of_failure (same.trans outcome)
  | case3 s outcome =>
    have same := (h.nextToken between between' whole left).1
    exact Scanner.drain_of_endOfSource (same.trans outcome)

/-- If a character that is lost may be taken off a text and off the rewritten text alike, both
scanners stay in step behind errors, too. -/
theorem reports_eq (h : Rewrites f)
    (resumes : ∀ c cs d ds, f (c :: cs) = d :: ds → skip ds = f (skip cs))
    (between : s.Between read ahead) (between' : u.Between read' ahead')
    (whole : f (read ++ ahead) = read' ++ ahead') (left : skip ahead' = f (skip ahead)) (n : Nat) :
    u.reports n = s.reports n := by
  induction n generalizing s u read ahead read' ahead' with
  | zero => rfl
  | succ n ih =>
    obtain ⟨same, _, rest, _, rest', after, after', whole', behind⟩ :=
      h.nextToken between between' whole left
    have left' : skip rest' = f (skip rest) := by
      rcases behind with rfl | ⟨_, c, d, _, behind⟩
      · exact h.skips rest
      · exact resumes c rest d rest' behind
    rw [Scanner.reports_succ, Scanner.reports_succ, same, ih after after' whole' left']

theorem tokenize_eq (h : Rewrites f) (source : String) (file file' : Option String) :
    tokenize (String.ofList (f source.toList)) file' = tokenize source file := by
  have between := Scanner.between_ofString source file
  have between' := Scanner.between_ofString (String.ofList (f source.toList)) file'
  rw [String.toList_ofList] at between'
  rw [tokenize_eq_drain, tokenize_eq_drain]
  exact h.drain_eq between between' rfl (h.skips _)

end Rewrites

end Lexical
