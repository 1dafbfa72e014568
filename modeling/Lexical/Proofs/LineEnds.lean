import Lexical.Excerpt
import Lexical.Proofs.Rewriting
import Mathlib.Data.List.DropRight

/-! Lines that end with a carriage return and a line feed.

A carriage return right before a line feed separates nothing that the line feed does not, and no
position behind it is in the same line. So a source may do without it. -/
namespace Lexical

open Direct (skip)

/-- The text with a line feed for every carriage return and line feed in a row. -/
def toLineFeeds : List Char → List Char
  | '\r' :: '\n' :: cs => '\n' :: toLineFeeds cs
  | c :: cs => c :: toLineFeeds cs
  | [] => []

/-- The source with a line feed at the end of each line, and no carriage return before it. -/
def withLineFeeds (source : String) : String := .ofList (toLineFeeds source.toList)

example : toLineFeeds "a\r\r\nb\rc\r\n".toList = "a\r\nb\rc\n".toList := by decide

variable {cs run rest front : List Char} {c : Char}

theorem toLineFeeds_cons (apart : c = '\r' → cs.head? ≠ some '\n') :
    toLineFeeds (c :: cs) = c :: toLineFeeds cs := by
  apply toLineFeeds.eq_2
  rintro more rfl rfl
  exact apart rfl rfl

/-- A carriage return and a line feed begin a text, or its first character stays. -/
theorem toLineFeeds_cases (c : Char) (cs : List Char) :
    (∃ more, c = '\r' ∧ cs = '\n' :: more ∧ toLineFeeds (c :: cs) = '\n' :: toLineFeeds more) ∨
      toLineFeeds (c :: cs) = c :: toLineFeeds cs := by
  by_cases pair : c = '\r' ∧ cs.head? = some '\n'
  · obtain ⟨rfl, head⟩ := pair
    obtain ⟨more, rfl⟩ := List.head?_eq_some_iff.mp head
    exact .inl ⟨more, rfl, rfl, rfl⟩
  · exact .inr (toLineFeeds_cons fun is head => pair ⟨is, head⟩)

/-- Only a line feed behind it changes a text. -/
theorem toLineFeeds_append (cs : List Char) (apart : front.head? ≠ some '\n') :
    toLineFeeds (cs ++ front) = toLineFeeds cs ++ toLineFeeds front := by
  fun_induction toLineFeeds cs with
  | case1 cs ih => exact congrArg ('\n' :: ·) ih
  | case2 c cs other ih =>
    have apart' : c = '\r' → (cs ++ front).head? ≠ some '\n' := by
      cases cs with
      | nil => exact fun _ => apart
      | cons d more =>
        rintro is ⟨⟩
        exact other more is rfl
    rw [List.cons_append, toLineFeeds_cons apart', ih, List.cons_append]
  | case3 => rfl

/-- No position behind a line tells how it ended. -/
theorem behind_toLineFeeds (cs : List Char) : Position.behind (toLineFeeds cs) = .behind cs := by
  have later (p : Position) : p.after (toLineFeeds cs) = p.after cs := by
    fun_induction toLineFeeds cs generalizing p with
    | case1 cs ih => exact ih _
    | case2 c cs _ ih => exact ih _
    | case3 => rfl
  rw [← Position.after_start, ← Position.after_start, later]

theorem toLineFeeds_stretch (inside : ∀ c ∈ run, isEndOfLine c = false) :
    toLineFeeds (run ++ rest) = run ++ toLineFeeds rest := by
  induction run with
  | nil => rfl
  | cons c run ih =>
    obtain ⟨here, later⟩ := List.forall_mem_cons.mp inside
    have apart : c = '\r' → (run ++ rest).head? ≠ some '\n' := by
      rintro rfl
      cases here
    rw [List.cons_append, toLineFeeds_cons apart, ih later, List.cons_append]

/-- The end of a line is one in either text. -/
theorem head_toLineFeeds (stop : ∀ c ∈ rest.head?, isEndOfLine c = true) :
    ∀ c ∈ (toLineFeeds rest).head?, isEndOfLine c = true := by
  cases rest with
  | nil => exact stop
  | cons c rest =>
    rcases toLineFeeds_cases c rest with ⟨more, -, -, e⟩ | e
    · rw [e]
      rintro _ ⟨⟩
      rfl
    · rw [e]
      rintro _ ⟨⟩
      exact stop c rfl

theorem skip_toLineFeeds (cs : List Char) : skip (toLineFeeds cs) = toLineFeeds (skip cs) := by
  fun_induction skip cs with
  | case1 => rw [toLineFeeds, skip]
  | case2 c cs blank ih =>
    rcases toLineFeeds_cases c cs with ⟨more, rfl, rfl, e⟩ | e
    · -- The line feed is skipped in the carriage return's place.
      rw [e, ← ih, toLineFeeds_cons fun is => absurd is (by decide), Direct.skip_blank rfl]
    · rw [e, Direct.skip_blank blank, ih]
  | case3 c cs _ starts ih =>
    obtain ⟨body, rest, split, is, stop, behind⟩ := Direct.exists_comment starts cs
    rw [behind] at ih ⊢
    rw [split, toLineFeeds_stretch (Direct.not_endOfLine_of_isComment is),
      Direct.skip_comment is (head_toLineFeeds stop), ih]
  | case4 c cs blank comment =>
    have apart : c = '\r' → cs.head? ≠ some '\n' := by
      rintro rfl
      exact absurd rfl blank
    rw [toLineFeeds_cons apart]
    exact Direct.skip_of_head (by simpa using blank) (by simpa using comment)

theorem rewrites_toLineFeeds : Rewrites toLineFeeds where
  nil := rfl
  keeps c cs solid := by
    apply toLineFeeds_cons
    rintro rfl
    cases solid
  separates c cs separates := by
    rcases toLineFeeds_cases c cs with ⟨more, -, -, e⟩ | e
    · exact ⟨'\n', _, e, rfl⟩
    · exact ⟨c, _, e, separates⟩
  skips := skip_toLineFeeds
  places before before' front stop whole := by
    have apart : front.head? ≠ some '\n' := by
      intro head
      cases stop '\n' head
    rw [toLineFeeds_append before apart] at whole
    rw [← List.append_cancel_right whole, behind_toLineFeeds]

/-- When the carriage return is lost to an error, the line feed behind it is skipped; when the line
feed is lost in its place, nothing is left to skip. -/
theorem skip_behind_toLineFeeds (c : Char) (cs : List Char) (d : Char) (ds : List Char)
    (behind : toLineFeeds (c :: cs) = d :: ds) : skip ds = toLineFeeds (skip cs) := by
  rcases toLineFeeds_cases c cs with ⟨more, rfl, rfl, e⟩ | e
  · rw [e] at behind
    cases behind
    rw [skip_toLineFeeds, Direct.skip_blank rfl]
  · rw [e] at behind
    cases behind
    exact skip_toLineFeeds cs

/-! ## Lines -/

/-- A line as `line?` gives it. -/
def withoutReturns (cs : List Char) : List Char := Text.trimEndWhile (· == '\r') cs

theorem withoutReturns_cons (c : Char) (cs : List Char) :
    withoutReturns (c :: withoutReturns cs) = withoutReturns (c :: cs) := by
  simp only [withoutReturns, Text.trimEndWhile, List.reverse_cons, List.reverse_reverse,
    List.dropWhile_append, List.dropWhile_idempotent]

/-- A character before lines without their carriage returns is one before the lines. -/
theorem map_withoutReturns_modifyHead (c : Char) (lines : List (List Char)) :
    (lines.modifyHead (c :: ·)).map withoutReturns =
      (lines.map withoutReturns).modifyHead fun cs => withoutReturns (c :: cs) := by
  cases lines with
  | nil => rfl
  | cons line lines =>
    rw [List.modifyHead_cons, List.map_cons, List.map_cons, List.modifyHead_cons,
      withoutReturns_cons]

/-- The lines of both texts are the same but for carriage returns at their ends. -/
theorem splitOn_toLineFeeds (cs : List Char) :
    ((toLineFeeds cs).splitOn '\n').map withoutReturns =
      (cs.splitOn '\n').map withoutReturns := by
  fun_induction toLineFeeds cs with
  | case1 cs ih =>
    -- The carriage return is alone in its line, and is trimmed.
    have alone : withoutReturns ['\r'] = withoutReturns [] := rfl
    simp [List.splitOn_cons_eq_if_modifyHead, alone, ih]
  | case2 c cs _ ih =>
    rw [List.splitOn_cons_eq_if_modifyHead, List.splitOn_cons_eq_if_modifyHead]
    split
    · rw [List.map_cons, List.map_cons, ih]
    · rw [map_withoutReturns_modifyHead, map_withoutReturns_modifyHead, ih]
  | case3 => rfl

/-- A line, looked up among those without their carriage returns. -/
theorem line?_eq_getElem? (source : String) (n : UInt32) : line? source n =
    if n = 0 then none
    else ((source.toList.splitOn '\n').map withoutReturns)[n.toNat - 1]?.map String.ofList := by
  rw [line?, List.getElem?_map, Option.map_map]
  rfl

theorem line?_withLineFeeds (source : String) (n : UInt32) :
    line? (withLineFeeds source) n = line? source n := by
  rw [line?_eq_getElem?, line?_eq_getElem?, withLineFeeds, String.toList_ofList,
    splitOn_toLineFeeds]

/-- **Lines may end either way.** Without the carriage return before each line feed a source gives
the same reports, call for call and past all errors, and has the same lines. So an error, reported
or not, is shown as it was, or the caret is too far to the right as it was. -/
theorem line_feeds_suffice (source : String) (file file' : Option String) :
    (∀ n, (Scanner.ofString (withLineFeeds source) file').reports n =
      (Scanner.ofString source file).reports n) ∧
    (∀ n, line? (withLineFeeds source) n = line? source n) ∧
    ∀ e name, Excerpt.render e (withLineFeeds source) name = Excerpt.render e source name := by
  refine ⟨?_, line?_withLineFeeds source, ?_⟩
  · have between := Scanner.between_ofString source file
    have between' := Scanner.between_ofString (withLineFeeds source) file'
    rw [withLineFeeds, String.toList_ofList] at between'
    exact rewrites_toLineFeeds.reports_eq skip_behind_toLineFeeds between between' rfl
      (skip_toLineFeeds _)
  · intro e name
    rw [Excerpt.render, Excerpt.render, line?_withLineFeeds]

end Lexical
