import Lexical.Proofs.Excerpt
import Lexical.Proofs.Quotations
import Lexical.Token

/-! What is displayed of tokens and errors tells what it is of.

A display is read from its begin, part by part:

* names and messages are told apart by how they begin (`append_ne_append`);
* quotations end at their marks;
* a number ends where its digits do (`number_append_inj`), so it is read if anything but a digit
  follows. Only the column in a message has nothing behind it (`Position.display_inj`). -/
namespace Lexical

open Excerpt (isDigit_of_mem_number)
open Text (prefixFree_quoteChar prefixFree_quoteString)

variable {u v x y : String} {m n : UInt32}

/-! ## Names and numbers -/

theorem eq_of_toString_eq (same : toString m = toString n) : m = n := by
  have digits : Nat.toDigits 10 m.toNat = Nat.toDigits 10 n.toNat := by
    simpa [toString, Nat.repr, String.ofList_inj] using same
  have value := congrArg (Nat.ofDigitChars 10 · 0) digits
  simp only [Nat.ofDigitChars_ten_toDigits] at value
  exact UInt32.toNat_inj.mp value

/-- A number ends where its digits do. -/
theorem number_append_inj (hx : ∀ c ∈ x.toList.head?, c.isDigit = false)
    (hy : ∀ c ∈ y.toList.head?, c.isDigit = false) (same : toString m ++ x = toString n ++ y) :
    m = n ∧ x = y := by
  have inside (n : UInt32) : ∀ c ∈ (toString n).toList, c.isDigit = true :=
    fun _ => isDigit_of_mem_number
  have same := congrArg String.toList same
  simp only [String.toList_append] at same
  have digits := congrArg (List.takeWhile Char.isDigit) same
  have rest := congrArg (List.dropWhile Char.isDigit) same
  rw [Direct.takeWhile_run (inside m) hx, Direct.takeWhile_run (inside n) hy] at digits
  rw [Direct.dropWhile_run (inside m) hx, Direct.dropWhile_run (inside n) hy] at rest
  exact ⟨eq_of_toString_eq (String.toList_injective digits), String.toList_injective rest⟩

/-- Names neither of which begins the other are told apart whatever follows. -/
theorem append_ne_append (apart : ¬u.toList <+: v.toList ∧ ¬v.toList <+: u.toList)
    (x y : String) : u ++ x ≠ v ++ y := by
  intro same
  have same := congrArg String.toList same
  simp only [String.toList_append] at same
  have begins : u.toList <+: v.toList ++ y.toList := ⟨_, same⟩
  rcases List.prefix_or_prefix_of_prefix begins (List.prefix_append _ _) with h | h
  · exact apart.1 h
  · exact apart.2 h

theorem TokenKind.prefixFree_name : PrefixFree TokenKind.name := by
  intro a b x y same
  by_cases eq : a = b
  · subst eq
    exact ⟨rfl, (String.append_right_inj _).mp same⟩
  · refine absurd same (append_ne_append ?_ x y)
    revert eq
    cases a <;> cases b <;> decide +kernel

/-! ## Faults -/

theorem NumberFault.prefixFree_message : PrefixFree NumberFault.message := by
  intro a b x y same
  unfold message at same
  cases a <;> cases b <;> try simp only [String.append_assoc, String.append_right_inj] at same
  case trailingPoint.trailingPoint | tooManyPoints.tooManyPoints => exact ⟨rfl, same⟩
  case unexpectedCharacter.unexpectedCharacter =>
    obtain ⟨rfl, rest⟩ := prefixFree_quoteChar _ _ _ _ same
    exact ⟨rfl, rest⟩
  all_goals exact absurd same (append_ne_append (by decide +kernel) _ _)

theorem NumberFault.prefixFree_inspect : PrefixFree NumberFault.inspect := by
  intro a b x y same
  unfold inspect at same
  cases a <;> cases b <;> try simp only [String.append_assoc, String.append_right_inj] at same
  case trailingPoint.trailingPoint | tooManyPoints.tooManyPoints => exact ⟨rfl, same⟩
  case unexpectedCharacter.unexpectedCharacter =>
    obtain ⟨rfl, rest⟩ := prefixFree_quoteChar _ _ _ _ same
    exact ⟨rfl, (String.append_right_inj _).mp rest⟩
  all_goals exact absurd same (append_ne_append (by decide +kernel) _ _)

theorem Fault.prefixFree_message : PrefixFree Fault.message := by
  intro a b x y same
  unfold message at same
  cases a <;> cases b <;> try simp only [String.append_assoc, String.append_right_inj] at same
  case unexpectedEndOfInput.unexpectedEndOfInput => exact ⟨rfl, same⟩
  case malformedNumber.malformedNumber =>
    obtain ⟨rfl, rest⟩ := NumberFault.prefixFree_message _ _ _ _ same
    exact ⟨rfl, rest⟩
  case invalidCharacter.invalidCharacter | malformedIdentifier.malformedIdentifier =>
    obtain ⟨rfl, rest⟩ := prefixFree_quoteChar _ _ _ _ same
    exact ⟨rfl, rest⟩
  all_goals exact absurd same (append_ne_append (by decide +kernel) _ _)

theorem Fault.prefixFree_inspect : PrefixFree Fault.inspect := by
  intro a b x y same
  unfold inspect name at same
  cases a <;> cases b <;>
    simp only [Text.labelled, List.map_cons, List.map_nil,
      String.intercalate_singleton, String.append_assoc, String.append_right_inj] at same
  case unexpectedEndOfInput.unexpectedEndOfInput => exact ⟨rfl, same⟩
  case malformedNumber.malformedNumber =>
    obtain ⟨rfl, rest⟩ := NumberFault.prefixFree_inspect _ _ _ _ same
    exact ⟨rfl, (String.append_right_inj _).mp rest⟩
  case invalidCharacter.invalidCharacter | malformedIdentifier.malformedIdentifier =>
    obtain ⟨rfl, rest⟩ := prefixFree_quoteChar _ _ _ _ same
    exact ⟨rfl, (String.append_right_inj _).mp rest⟩
  all_goals exact absurd same (append_ne_append (by decide +kernel) _ _)

/-! ## Positions -/

theorem Position.display_inj {p q : Position} (same : p.display = q.display) : p = q := by
  obtain ⟨line, column⟩ := p
  obtain ⟨line', column'⟩ := q
  unfold display at same
  simp only [String.append_assoc] at same
  obtain ⟨rfl, columns⟩ := number_append_inj (by simp) (by simp) same
  rw [eq_of_toString_eq ((String.append_right_inj _).mp columns)]

theorem Position.prefixFree_inspect : PrefixFree Position.inspect := by
  rintro ⟨line, column⟩ ⟨line', column'⟩ x y same
  unfold inspect at same
  simp only [Text.labelled, List.map_cons, List.map_nil, String.intercalate_cons_cons,
    String.intercalate_singleton, String.append_assoc, String.append_right_inj] at same
  obtain ⟨rfl, columns⟩ := number_append_inj (by simp) (by simp) same
  simp only [String.append_right_inj] at columns
  obtain ⟨rfl, rest⟩ := number_append_inj (by simp) (by simp) columns
  exact ⟨rfl, (String.append_right_inj _).mp rest⟩

/-! ## Tokens and errors -/

theorem Token.display_inj {t u : Token} (same : t.display = u.display) : t = u := by
  obtain ⟨kind, text⟩ := t
  obtain ⟨kind', text'⟩ := u
  unfold display at same
  simp only [Text.labelled, List.map_cons, List.map_nil, String.intercalate_cons_cons,
    String.intercalate_singleton, String.append_assoc, String.append_right_inj] at same
  obtain ⟨rfl, texts⟩ := TokenKind.prefixFree_name _ _ _ _ same
  simp only [String.append_right_inj] at texts
  obtain ⟨rfl, -⟩ := prefixFree_quoteString _ _ _ _ texts
  rfl

theorem ScanError.inspect_inj {a b : ScanError} (same : a.inspect = b.inspect) : a = b := by
  obtain ⟨fault, position, lexeme⟩ := a
  obtain ⟨fault', position', lexeme'⟩ := b
  unfold inspect at same
  simp only [Text.labelled, List.map_cons, List.map_nil, String.intercalate_cons_cons,
    String.intercalate_singleton, String.append_assoc, String.append_right_inj] at same
  obtain ⟨rfl, rest⟩ := Fault.prefixFree_inspect _ _ _ _ same
  simp only [String.append_right_inj] at rest
  obtain ⟨rfl, rest⟩ := Position.prefixFree_inspect _ _ _ _ rest
  simp only [String.append_right_inj] at rest
  obtain ⟨rfl, -⟩ := prefixFree_quoteString _ _ _ _ rest
  rfl

theorem ScanError.message_inj {a b : ScanError} (same : a.message = b.message) :
    a.fault = b.fault ∧ a.position = b.position := by
  unfold message at same
  simp only [String.append_assoc] at same
  obtain ⟨faults, rest⟩ := Fault.prefixFree_message _ _ _ _ same
  exact ⟨faults, Position.display_inj ((String.append_right_inj _).mp rest)⟩

/-- **What is displayed tells what it is of.** Tokens that are displayed alike are the same,
whatever is in their texts. Errors that are written out alike are the same too; the message of an
error tells its fault, with the character or the reason in it, and its position. -/
theorem displays_tell_apart :
    (∀ t u : Token, t.display = u.display ↔ t = u) ∧
    (∀ a b : ScanError, a.inspect = b.inspect ↔ (a == b) = true) ∧
    ∀ a b : ScanError, a.message = b.message ↔ a.fault = b.fault ∧ a.position = b.position := by
  refine ⟨fun t u => ⟨Token.display_inj, congrArg Token.display⟩, fun a b => ?_, fun a b => ?_⟩
  · rw [beq_iff_eq]
    exact ⟨ScanError.inspect_inj, congrArg ScanError.inspect⟩
  · refine ⟨ScanError.message_inj, ?_⟩
    rintro ⟨fault, position⟩
    rw [ScanError.message, ScanError.message, fault, position]

end Lexical
