import Lexical.Direct

/-! Cuts of texts whose longest runs are known. -/
namespace Lexical.Direct

variable {p : Char → Bool} {run rest : List Char}

/-- Every text begins with a longest run, perhaps an empty one, of characters that pass a test. -/
theorem exists_run (p : Char → Bool) (cs : List Char) :
    ∃ run rest, cs = run ++ rest ∧ (∀ c ∈ run, p c = true) ∧ ∀ c ∈ rest.head?, p c = false := by
  refine ⟨cs.takeWhile p, cs.dropWhile p, List.takeWhile_append_dropWhile.symm, ?_, ?_⟩
  · exact List.all_eq_true.mp List.all_takeWhile
  · intro c hc
    have := List.head?_dropWhile_not p cs
    simpa [Option.mem_def.mp hc] using this

theorem takeWhile_run (inside : ∀ c ∈ run, p c = true) (stop : ∀ c ∈ rest.head?, p c = false) :
    (run ++ rest).takeWhile p = run := by
  rw [List.takeWhile_append_of_pos inside]
  cases rest with
  | nil => simp
  | cons c cs => simp [stop c rfl]

theorem dropWhile_run (inside : ∀ c ∈ run, p c = true) (stop : ∀ c ∈ rest.head?, p c = false) :
    (run ++ rest).dropWhile p = rest := by
  rw [List.dropWhile_append_of_pos inside]
  cases rest with
  | nil => rfl
  | cons c cs => simp [stop c rfl]

theorem length_lt_of_dropWhile {cs : List Char} {c : Char} (behind : cs.dropWhile p = c :: rest) :
    rest.length < cs.length := by
  have shorter := (List.dropWhile_sublist (l := cs) p).length_le
  rwa [behind, List.length_cons] at shorter

namespace Cut

theorem word_run (inside : ∀ c ∈ run, isWordPart c = true)
    (stop : ∀ c ∈ rest.head?, isWordPart c = false) :
    word (run ++ rest) = match rest with
      | [] => unended run
      | c :: _ =>
        if isInvalid c then ⟨run, .fault (.malformedIdentifier c), [c]⟩
        else token run (.ofWord (String.ofList run)) := by
  unfold word
  rw [takeWhile_run inside stop, dropWhile_run inside stop]
  cases rest <;> rfl

theorem fraction_run {whole : List Char} (inside : ∀ c ∈ run, isDigit c = true)
    (stop : ∀ c ∈ rest.head?, isDigit c = false) :
    fraction whole (run ++ rest) = match rest with
      | [] => unended (whole ++ '.' :: run)
      | c :: _ =>
        if isPoint c then
          ⟨whole ++ '.' :: run ++ [c], .fault (.malformedNumber .tooManyPoints), []⟩
        else if run.isEmpty then
          ⟨whole ++ '.' :: run, .fault (.malformedNumber .trailingPoint), [c]⟩
        else token (whole ++ '.' :: run) .number := by
  unfold fraction
  rw [takeWhile_run inside stop, dropWhile_run inside stop]
  cases rest <;> rfl

theorem number_run (inside : ∀ c ∈ run, isDigit c = true)
    (stop : ∀ c ∈ rest.head?, isDigit c = false) :
    number (run ++ rest) = match rest with
      | [] => unended run
      | c :: more =>
        if isPoint c then fraction run more
        else if isLetter c || isInvalid c then
          ⟨run, .fault (.malformedNumber (.unexpectedCharacter c)), [c]⟩
        else token run .number := by
  unfold number
  rw [takeWhile_run inside stop, dropWhile_run inside stop]
  cases rest <;> rfl

end Cut

end Lexical.Direct
