import Lexical.Proofs.LastLexeme

/-! Every token is as long as it can be.

One character behind a token settles where it ends, and yet no longer token begins there, however
the text goes on: if one did, the text of the longer one, with a separator behind it, would be cut
in two ways. For the same reason no text has two kinds. -/
namespace Lexical

open Direct (Cut skip)

namespace Grammar

/-- Of the texts with the property `P` that `text` begins with, `front` is the longest. -/
structure Longest (P : List Char → Prop) (front text : List Char) : Prop where
  is : P front
  begins : front <+: text
  longest : ∀ other, P other → other <+: text → other.length ≤ front.length

/-- The text is that of a token of some kind. -/
def IsTokenText (cs : List Char) : Prop := ∃ kind, Shape cs kind

variable {cs gap rest : List Char} {t : Token} {kind kind' : TokenKind}

theorem ofText_lineFeed (is : Shape cs kind) :
    Cut.ofText (cs ++ ['\n']) = Cut.token cs kind := by
  have formed : WellFormed ⟨kind, String.ofList cs⟩ := by simpa [WellFormed] using is
  simpa using ofText_of_fits (fits_lineFeed formed)

theorem Shape.unique (is : Shape cs kind) (is' : Shape cs kind') : kind = kind' := by
  have cut := ofText_lineFeed is
  rw [ofText_lineFeed is'] at cut
  injection cut with _ verdict
  injection verdict with same
  exact same.symm

theorem Fits.longest (h : Fits t rest) :
    Longest IsTokenText t.text.toList (t.text.toList ++ rest) where
  is := ⟨t.kind, h.formed⟩
  begins := List.prefix_append ..
  longest := by
    rintro other ⟨kind, is⟩ begins
    by_contra longer
    obtain ⟨more, goesOn⟩ : t.text.toList <+: other :=
      List.prefix_of_prefix_length_le (List.prefix_append ..) begins (by omega)
    obtain ⟨behind, whole⟩ := begins
    subst goesOn
    cases more with
    | nil => simp at longer
    | cons c more =>
      have same : c :: more ++ behind = rest := by
        rw [List.append_assoc] at whole
        exact List.append_cancel_left whole
      -- The longer token goes on with the character before which `t` was cut off.
      have fits : Fits t (c :: more ++ ['\n']) := by
        refine ⟨h.formed, ?_, by simp⟩
        rintro _ ⟨⟩
        exact h.apart c (by rw [← same]; rfl)
      have cut := ofText_lineFeed is
      rw [List.append_assoc, ofText_of_fits fits] at cut
      injection cut with same
      simp at same

/-- What is skipped cannot be stretched either. -/
theorem Trivia.longest (blank : Trivia gap) (stays : skip rest = rest) :
    Longest Trivia gap (gap ++ rest) where
  is := blank
  begins := List.prefix_append ..
  longest := by
    rintro other blank' ⟨behind, whole⟩
    have left : skip behind = rest := by
      rw [← Direct.skip_append_of_trivia blank', whole, Direct.skip_append_of_trivia blank, stays]
    obtain ⟨gap', split, -, -⟩ := Direct.exists_gap behind
    rw [left] at split
    have sizes := congrArg List.length whole
    simp only [split, List.length_append] at sizes
    omega

end Grammar

open Grammar

variable {source : String} {file : Option String} {s : Scanner} {t : Token}

/-- **Maximal munch.** In every state that a session leaves, a call that finds a token has skipped
all the trivia that can be skipped, and the token is the longest one that the rest begins with. Its
kind is the only one with such a text. -/
theorem token_is_longest (h : Reachable source file s) (found : s.nextToken.outcome = .token t) :
    ∃ gap rest, source.toList.drop s.offset = gap ++ rest ∧
      Longest Trivia gap (source.toList.drop s.offset) ∧
      t.text.toList ≠ [] ∧ Longest IsTokenText t.text.toList rest ∧
      ∀ kind, Shape t.text.toList kind ↔ kind = t.kind := by
  obtain ⟨answers, session⟩ := h
  have between := session.between
  obtain ⟨gap, rest, split, blank, fits⟩ := between.exists_fits found
  rw [split]
  refine ⟨gap, t.text.toList ++ rest, rfl, blank.longest fits.skip_eq, fits.formed.ne_nil,
    fits.longest, fun kind => ⟨fun is => is.unique fits.formed, ?_⟩⟩
  rintro rfl
  exact fits.formed

/-- Behind the error stands a comment, and behind that an operator that is longer than its first
character and shorter than the run of operators. -/
theorem token_is_longest_behind_comment :
    let s := (Scanner.ofString "?# <\n<==x" none).nextToken.scanner
    Reachable "?# <\n<==x" none s ∧ s.nextToken.outcome = .token ⟨.relOperator, "<="⟩ ∧
    ∃ gap rest, "# <\n<==x".toList = gap ++ rest ∧ Longest Trivia gap "# <\n<==x".toList ∧
      Longest IsTokenText "<=".toList rest ∧
      ∀ kind, Shape "<=".toList kind ↔ kind = .relOperator := by
  intro s
  have reached : Reachable "?# <\n<==x" none s := ⟨_, .nextToken .opened⟩
  have found : s.nextToken.outcome = .token ⟨.relOperator, "<="⟩ := by decide +kernel
  have ahead : "?# <\n<==x".toList.drop s.offset = "# <\n<==x".toList := by decide +kernel
  obtain ⟨gap, rest, split, trivia, -, munch, kinds⟩ := token_is_longest reached found
  rw [ahead] at split trivia
  exact ⟨reached, found, gap, rest, split, trivia, munch, kinds⟩

end Lexical
