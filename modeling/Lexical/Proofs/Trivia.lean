import Lexical.Grammar
import Lexical.Proofs.LongestRun

/-! What is skipped before a lexeme is exactly the trivia of the grammar. -/
namespace Lexical.Grammar

theorem Trivia.append {as bs : List Char} (h : Trivia as) (h' : Trivia bs) :
    Trivia (as ++ bs) := by
  induction h with
  | nil => exact h'
  | blank is _ ih => exact .blank is ih
  | comment is closed _ ih =>
    rw [List.append_assoc, List.cons_append]
    exact .comment is closed ih

end Lexical.Grammar

namespace Lexical.Direct

open Grammar (IsComment Trivia FinalTrivia)

variable {cs gap body : List Char} {c : Char}

theorem skip_blank (blank : isWhitespace c = true) : skip (c :: cs) = skip cs := by
  rw [skip, if_pos blank]

/-- A comment ends with its line, and the end of the line is a blank. -/
theorem skip_comment (is : IsComment gap) (closed : ∀ c ∈ cs.head?, isEndOfLine c = true) :
    skip (gap ++ cs) = skip cs := by
  obtain ⟨body, rfl, inside⟩ := is
  have stop : ∀ c ∈ cs.head?, (!isEndOfLine c) = false := by simpa using closed
  rw [List.cons_append, skip, if_neg (by decide), if_pos (by decide),
    dropWhile_run (by simpa using inside) stop]

theorem isWhitespace_of_isEndOfLine (h : isEndOfLine c = true) : isWhitespace c = true := by
  simp only [isEndOfLine, Bool.or_eq_true, beq_iff_eq] at h
  rcases h with rfl | rfl <;> rfl

theorem skip_append_of_trivia (h : Trivia gap) : skip (gap ++ cs) = skip cs := by
  induction h with
  | nil => rfl
  | blank is _ ih => rw [List.cons_append, skip_blank is, ih]
  | @comment body c more is closed _ ih =>
    rw [List.append_assoc, List.cons_append, skip_comment is (by simpa using closed),
      skip_blank (isWhitespace_of_isEndOfLine closed), ih]

theorem skip_of_finalTrivia (h : FinalTrivia cs) : skip cs = [] := by
  rcases h with h | ⟨before, last, rfl, h, is⟩
  · have e : skip (cs ++ []) = skip [] := skip_append_of_trivia h
    rwa [List.append_nil, skip] at e
  · have e : skip (last ++ []) = skip [] := skip_comment is (by simp)
    rw [List.append_nil, skip] at e
    rw [skip_append_of_trivia h, e]

theorem head_skip (cs : List Char) :
    ∀ c ∈ (skip cs).head?, isWhitespace c = false ∧ isCommentStart c = false := by
  fun_induction skip cs with
  | case1 => simp
  | case2 _ _ _ ih => exact ih
  | case3 _ _ _ _ ih => exact ih
  | case4 c cs blank comment => simp_all

theorem finalTrivia_blank (blank : isWhitespace c = true) (h : FinalTrivia gap) :
    FinalTrivia (c :: gap) := by
  rcases h with h | ⟨before, last, rfl, h, is⟩
  · exact .inl (.blank blank h)
  · exact .inr ⟨c :: before, last, rfl, .blank blank h, is⟩

theorem finalTrivia_comment {body : List Char} (is : IsComment body)
    (closed : isEndOfLine c = true) (h : FinalTrivia gap) : FinalTrivia (body ++ c :: gap) := by
  rcases h with h | ⟨before, last, rfl, h, is'⟩
  · exact .inl (.comment is closed h)
  · exact .inr ⟨body ++ c :: before, last, by simp, .comment is closed h, is'⟩

/-- What is skipped at the beginning of a text. Only the end of the text lets it end within a
comment. -/
structure Gap (gap cs : List Char) : Prop where
  split : cs = gap ++ skip cs
  final : FinalTrivia gap
  closed : skip cs ≠ [] → Trivia gap

theorem gap_nil (stays : skip cs = cs) : Gap [] cs :=
  ⟨by rw [stays]; rfl, .inl .nil, fun _ => .nil⟩

theorem gap_blank (blank : isWhitespace c = true) (h : Gap gap cs) : Gap (c :: gap) (c :: cs) := by
  refine ⟨?_, finalTrivia_blank blank h.final, ?_⟩
  · rw [skip_blank blank, List.cons_append, ← h.split]
  · rw [skip_blank blank]
    exact fun more => .blank blank (h.closed more)

theorem gap_comment (is : IsComment body) (closed : isEndOfLine c = true) (h : Gap gap cs) :
    Gap (body ++ c :: gap) (body ++ c :: cs) := by
  have skipped : skip (body ++ c :: cs) = skip cs := by
    rw [skip_comment is (by simpa using closed), skip_blank (isWhitespace_of_isEndOfLine closed)]
  refine ⟨?_, finalTrivia_comment is closed h.final, ?_⟩
  · rw [skipped, List.append_assoc, List.cons_append, ← h.split]
  · rw [skipped]
    exact fun more => .comment is closed (h.closed more)

theorem gap_last_comment (is : IsComment body) : Gap body body := by
  have final : FinalTrivia body := .inr ⟨[], body, rfl, .nil, is⟩
  have nothing := skip_of_finalTrivia final
  exact ⟨by simp [nothing], final, fun more => absurd nothing more⟩

theorem not_endOfLine_of_isComment (is : IsComment body) : ∀ c ∈ body, isEndOfLine c = false := by
  obtain ⟨run, rfl, inside⟩ := is
  exact List.forall_mem_cons.mpr ⟨rfl, inside⟩

/-- A comment sign begins a comment that the end of its line stops. -/
theorem exists_comment (starts : isCommentStart c = true) (cs : List Char) :
    ∃ body rest, c :: cs = body ++ rest ∧ IsComment body ∧
      (∀ d ∈ rest.head?, isEndOfLine d = true) ∧ cs.dropWhile (!isEndOfLine ·) = rest := by
  cases beq_iff_eq.mp starts
  obtain ⟨run, rest, rfl, inside, stop⟩ := exists_run (!isEndOfLine ·) cs
  exact ⟨'#' :: run, rest, rfl, ⟨run, rfl, by simpa using inside⟩, by simpa using stop,
    dropWhile_run inside stop⟩

theorem exists_gap (cs : List Char) : ∃ gap, Gap gap cs := by
  -- Not along `skip`, which leaves the end of a comment's line to its next round: the gap that
  -- begins there no longer shows that it closes the comment.
  induction size : cs.length using Nat.strongRecOn generalizing cs with
  | ind n ih =>
    cases cs with
    | nil => exact ⟨[], gap_nil (by rw [skip])⟩
    | cons c cs =>
      by_cases blank : isWhitespace c = true
      · obtain ⟨gap, h⟩ := ih cs.length (by simp [← size]) cs rfl
        exact ⟨c :: gap, gap_blank blank h⟩
      · by_cases starts : isCommentStart c = true
        · obtain ⟨body, rest, split, is, stop, -⟩ := exists_comment starts cs
          rw [split] at size ⊢
          cases rest with
          | nil =>
            rw [List.append_nil]
            exact ⟨body, gap_last_comment is⟩
          | cons d more =>
            obtain ⟨gap, h⟩ := ih more.length (by simp [← size]; omega) more rfl
            exact ⟨body ++ d :: gap, gap_comment is (stop d rfl) h⟩
        · exact ⟨[], gap_nil (by rw [skip, if_neg blank, if_neg starts])⟩

end Lexical.Direct
