import Lexical.Proofs.LongestRun
import Lexical.Text.Quoted

/-! Quotations can be read back.

A writing is free of prefixes if what it stands for and what follows it can be told from the text:

* `Text.unescape_escape`: the number of digits in an escape is not fixed, so a decoder reads it;
* `PrefixFree.flatMap`: a row of such writings ends at a mark that begins none of them;
* `Text.prefixFree_quoteChar`, `Text.prefixFree_quoteString`: in a quotation the mark never stands
  for itself (`Text.escape_append_ne`), so it ends where it says. -/
namespace Lexical

variable {α : Type} {write : α → List Char} {stop quote c d : Char} {x y : List Char} {n : Nat}

/-- What was written can be told from a text that it begins. -/
def PrefixFree {β : Type} [Append β] (write : α → β) : Prop :=
  ∀ a b (x y : β), write a ++ x = write b ++ y → a = b ∧ x = y

namespace PrefixFree

theorem of_reader (read : List Char → Option (α × List Char))
    (reads : ∀ a rest, read (write a ++ rest) = some (a, rest)) : PrefixFree write := by
  intro a b x y same
  have both : some (a, x) = some (b, y) := by rw [← reads a, ← reads b, same]
  exact Prod.mk.inj (Option.some.inj both)

/-- One after the other, up to a mark that begins none of them. -/
theorem flatMap (free : PrefixFree write) (apart : ∀ a x y, write a ++ x ≠ stop :: y) :
    PrefixFree fun as : List α => as.flatMap write ++ [stop] := by
  intro as
  induction as with
  | nil =>
    intro bs x y same
    cases bs with
    | nil => exact ⟨rfl, List.append_cancel_left same⟩
    | cons b bs =>
      simp only [List.flatMap_cons, List.append_assoc] at same
      exact (apart b _ _ same.symm).elim
  | cons a as ih =>
    intro bs x y same
    cases bs with
    | nil =>
      simp only [List.flatMap_cons, List.append_assoc] at same
      exact (apart a _ _ same).elim
    | cons b bs =>
      simp only [List.flatMap_cons, List.append_assoc] at same
      obtain ⟨rfl, same⟩ := free _ _ _ _ same
      obtain ⟨rfl, eq⟩ := ih bs x y (by simpa using same)
      exact ⟨rfl, eq⟩

end PrefixFree

namespace Text

/-! ## Escapes -/

def hexDigit (c : Char) : Nat :=
  if c.isDigit then c.toNat - '0'.toNat else c.toNat - 'a'.toNat + 10

def hexNumber (digits : List Char) : Nat := digits.foldl (fun n d => 16 * n + hexDigit d) 0

/-- Reads one character of a quotation. -/
def unescape : List Char → Option (Char × List Char)
  | '\\' :: 'u' :: '\x7b' :: cs =>
    some (.ofNat (hexNumber (cs.takeWhile (· != '\x7d'))), (cs.dropWhile (· != '\x7d')).tail)
  | '\\' :: '0' :: cs => some ('\x00', cs)
  | '\\' :: 't' :: cs => some ('\t', cs)
  | '\\' :: 'n' :: cs => some ('\n', cs)
  | '\\' :: 'r' :: cs => some ('\r', cs)
  | '\\' :: c :: cs => some (c, cs)
  | c :: cs => some (c, cs)
  | [] => none

theorem hexDigit_digitChar (small : n < 16) : hexDigit n.digitChar = n := by
  have all : ∀ n : Fin 16, hexDigit n.val.digitChar = n.val := by decide
  exact all ⟨n, small⟩

theorem hexNumber_toDigits (n : Nat) : hexNumber (Nat.toDigits 16 n) = n := by
  induction n using Nat.strongRecOn with
  | ind n ih =>
    by_cases small : n < 16
    · rw [Nat.toDigits_of_lt_base small]
      simp [hexNumber, hexDigit_digitChar small]
    · have shorter := ih (n / 16) (by omega)
      rw [hexNumber] at shorter
      rw [Nat.toDigits_of_base_le (by decide) (by omega), hexNumber, List.foldl_append, shorter,
        List.foldl_cons, List.foldl_nil, hexDigit_digitChar (by omega)]
      omega

theorem exists_digit_of_mem_toDigits (mem : c ∈ Nat.toDigits 16 n) :
    ∃ d < 16, c = d.digitChar := by
  induction n using Nat.strongRecOn with
  | ind n ih =>
    by_cases small : n < 16
    · rw [Nat.toDigits_of_lt_base small] at mem
      exact ⟨n, small, List.mem_singleton.mp mem⟩
    · rw [Nat.toDigits_of_base_le (by decide) (by omega), List.mem_append] at mem
      rcases mem with mem | mem
      · exact ih (n / 16) (by omega) mem
      · exact ⟨n % 16, by omega, List.mem_singleton.mp mem⟩

theorem not_mem_toDigits (other : ∀ d : Fin 16, d.val.digitChar ≠ c) :
    c ∉ Nat.toDigits 16 n := by
  intro mem
  obtain ⟨d, small, is⟩ := exists_digit_of_mem_toDigits mem
  exact other ⟨d, small⟩ is.symm

/-- The two quote marks. -/
def IsMark (quote : Char) : Prop := quote = '"' ∨ quote = '\''

theorem unescape_escape (mark : IsMark quote) (c : Char) (rest : List Char) :
    unescape (escape quote c ++ rest) = some (c, rest) := by
  unfold escape
  split
  · next h => cases beq_iff_eq.mp h; rfl
  split
  · next h => cases beq_iff_eq.mp h; rfl
  split
  · next h => cases beq_iff_eq.mp h; rfl
  split
  · next h => cases beq_iff_eq.mp h; rfl
  split
  · next h =>
    rcases Bool.or_eq_true_iff.mp h with h | h <;> cases beq_iff_eq.mp h
    · rfl
    · rcases mark with rfl | rfl <;> rfl
  · next solid =>
    have plain : c ≠ '\\' := by
      rintro rfl
      simp at solid
    split
    · have brace : ∀ d ∈ ('\x7d' :: rest).head?, (d != '\x7d') = false := by simp
      have inside : ∀ d ∈ Nat.toDigits 16 c.toNat, (d != '\x7d') = true := by
        rintro d mem
        refine bne_iff_ne.mpr fun is => ?_
        exact not_mem_toDigits (by decide) (is ▸ mem)
      simp only [List.cons_append, List.nil_append, List.append_assoc, unescape]
      rw [Direct.takeWhile_run inside brace, Direct.dropWhile_run inside brace,
        hexNumber_toDigits, Char.ofNat_toNat, List.tail_cons]
    · simp [unescape, plain]

/-- The quote mark does not stand for itself. -/
theorem escape_append_ne (mark : IsMark quote) (c : Char) (x y : List Char) :
    escape quote c ++ x ≠ quote :: y := by
  intro same
  have reads := unescape_escape mark c x
  have alone : unescape (quote :: y) = some (quote, y) := by
    rcases mark with rfl | rfl <;> rfl
  rw [same, alone] at reads
  cases reads
  -- The mark itself is escaped.
  have escaped : escape quote quote = ['\\', quote] := by
    rcases mark with rfl | rfl <;> rfl
  rw [escaped] at same
  rcases mark with rfl | rfl <;> cases same

theorem prefixFree_escape (mark : IsMark quote) : PrefixFree (escape quote) :=
  .of_reader unescape (unescape_escape mark)

theorem prefixFree_quoteChar : PrefixFree quoteChar := by
  intro c d x y same
  have same := congrArg String.toList same
  simp only [quoteChar, String.toList_append, String.toList_ofList, List.cons_append,
    List.cons.injEq, true_and, List.append_assoc] at same
  obtain ⟨rfl, rest⟩ := prefixFree_escape (.inr rfl) _ _ _ _ same
  exact ⟨rfl, String.toList_injective (List.cons.inj rest).2⟩

theorem prefixFree_quoteString : PrefixFree quoteString := by
  intro s t x y same
  have free := (prefixFree_escape (.inl rfl)).flatMap (escape_append_ne (.inl rfl))
  have same := congrArg String.toList same
  simp only [quoteString, String.toList_append, String.toList_ofList, List.cons_append,
    List.cons.injEq, true_and] at same
  obtain ⟨texts, rest⟩ := free _ _ _ _ same
  exact ⟨String.toList_injective texts, String.toList_injective rest⟩

end Text

end Lexical
