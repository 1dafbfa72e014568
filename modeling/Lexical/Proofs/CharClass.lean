import Lexical.CharClass

/-! Every character passes the test of its class and, the equals sign apart, no other. -/
namespace Lexical.CharClass

/-- The test that decides about a class. -/
def test : CharClass → Char → Bool
  | whitespace => isWhitespace
  | commentStart => isCommentStart
  | letter => isLetter
  | digit => isDigit
  | underscore => isUnderscore
  | point => isPoint
  | mathOperator => isMathOperator
  | assignment => isAssignment
  | relOperator => isRelOperator
  | parenthesis => isParenthesis
  | invalid => isInvalid

theorem test_ofChar (c : Char) : (ofChar c).test c = true := by
  cases k : ofChar c with
  | invalid => simp [test, isInvalid, k]
  | _ => simp only [test]; grind [ofChar]

theorem isDigit_of_isLetter {c : Char} (h : isLetter c = true) : isDigit c = false := by
  have bounds : 65 ≤ c.val.toNat ∨ 97 ≤ c.val.toNat := by
    delta isLetter Char.isAlpha Char.isUpper Char.isLower at h
    simp only [Bool.or_eq_true, Bool.and_eq_true, decide_eq_true_eq, UInt32.le_iff_toNat_le,
      ge_iff_le] at h
    exact h.imp And.left And.left
  have : '9'.val.toNat = 57 := rfl
  simp only [isDigit, Char.isDigit, Bool.and_eq_false_iff, decide_eq_false_iff_not,
    UInt32.le_iff_toNat_le, ge_iff_le]
  omega

/-- No class but that of comparisons shares a character with one that is tested before it. -/
theorem ofChar_of_test {k : CharClass} {c : Char} (h : k.test c = true) (ne : k ≠ relOperator) :
    ofChar c = k := by
  have blank (l : isWhitespace c = true ∨ isCommentStart c = true) :
      isLetter c = false ∧ isDigit c = false := by
    simp only [isWhitespace, isCommentStart, Bool.or_eq_true, beq_iff_eq] at l
    rcases l with (((rfl | rfl) | rfl) | rfl) | rfl <;> decide
  cases k with
  | whitespace | mathOperator =>
    simp only [test, isWhitespace, isMathOperator, Bool.or_eq_true, beq_iff_eq] at h
    rcases h with ((rfl | rfl) | rfl) | rfl <;> decide
  | parenthesis =>
    simp only [test, isParenthesis, Bool.or_eq_true, beq_iff_eq] at h
    rcases h with rfl | rfl <;> decide
  | commentStart | underscore | point | assignment => cases beq_iff_eq.mp h; decide
  | letter => simp only [test] at h; grind [ofChar]
  | digit => simp only [test] at h; grind [ofChar, isDigit_of_isLetter]
  | relOperator => exact absurd rfl ne
  | invalid => simpa [test, isInvalid] using h

theorem test_of_other {k l : CharClass} {c : Char} (h : k.test c = true) (ne : k ≠ l)
    (hk : k ≠ relOperator) (hl : l ≠ relOperator) : l.test c = false := by
  cases other : l.test c with
  | false => rfl
  | true => exact absurd ((ofChar_of_test h hk).symm.trans (ofChar_of_test other hl)) ne

/-- No character of a word belongs to a class that is not made for words. -/
theorem test_of_isWordPart {l : CharClass} {c : Char} (h : isWordPart c = true)
    (noWord : l ≠ letter ∧ l ≠ digit ∧ l ≠ underscore) (hl : l ≠ relOperator) :
    l.test c = false := by
  obtain ⟨noLetter, noDigit, noUnderscore⟩ := noWord
  simp only [isWordPart, Bool.or_eq_true] at h
  rcases h with (h | h) | h
  · exact test_of_other (k := letter) h noLetter.symm (by simp) hl
  · exact test_of_other (k := digit) h noDigit.symm (by simp) hl
  · exact test_of_other (k := underscore) h noUnderscore.symm (by simp) hl

theorem isWordPart_of_isInvalid {c : Char} (h : isInvalid c = true) : isWordPart c = false := by
  cases part : isWordPart c with
  | false => rfl
  | true =>
    have valid : isInvalid c = false := test_of_isWordPart (l := invalid) part (by simp) (by simp)
    simp [h] at valid

/-- A letter or an invalid character ends a run of digits and begins no fraction. -/
theorem not_numeric_of_stray {c : Char} (h : (isLetter c || isInvalid c) = true) :
    isDigit c = false ∧ isPoint c = false := by
  rcases Bool.or_eq_true_iff.mp h with h | h
  · exact ⟨isDigit_of_isLetter h,
      test_of_other (k := letter) (l := point) h (by simp) (by simp) (by simp)⟩
  · exact ⟨test_of_other (k := invalid) (l := digit) h (by simp) (by simp) (by simp),
      test_of_other (k := invalid) (l := point) h (by simp) (by simp) (by simp)⟩

end Lexical.CharClass
