import Lexical.Proofs.Rewriting

/-! Comments, and blanks in place of them. -/
namespace Lexical

open Direct (skip exists_run)
open Grammar

/-- A stretch without line ends, blank from its first comment sign on. -/
def blankedStretch (cs : List Char) : List Char :=
  cs.takeWhile (!isCommentStart ·) ++ (cs.dropWhile (!isCommentStart ·)).map fun _ => ' '

/-- The text with every stretch between two line ends blank from its first comment sign on. -/
def blanked (cs : List Char) : List Char :=
  match _behind : cs.dropWhile (!isEndOfLine ·) with
  | [] => blankedStretch cs
  | c :: rest => blankedStretch (cs.takeWhile (!isEndOfLine ·)) ++ c :: blanked rest
termination_by cs.length
decreasing_by exact Direct.length_lt_of_dropWhile _behind

example : blanked "a#?\r#b#\n\n c ##".toList = "a  \r   \n\n c   ".toList := by decide +kernel

variable {cs run rest body : List Char} {c : Char}

theorem blanked_nil : blanked [] = [] := by
  rw [blanked]
  rfl

/-- The end of a line begins a stretch of its own. -/
theorem blanked_endOfLine (ends : isEndOfLine c = true) : blanked (c :: cs) = c :: blanked cs := by
  have behind : (c :: cs).dropWhile (!isEndOfLine ·) = c :: cs :=
    List.dropWhile_cons_of_neg (by simp [ends])
  have stretch : (c :: cs).takeWhile (!isEndOfLine ·) = [] :=
    List.takeWhile_cons_of_neg (by simp [ends])
  rw [blanked]
  split
  · simp_all
  · next d rest left =>
    rw [behind] at left
    cases left
    rw [stretch]
    rfl

theorem blanked_stretch (inside : ∀ c ∈ run, isEndOfLine c = false)
    (stop : ∀ c ∈ rest.head?, isEndOfLine c = true) :
    blanked (run ++ rest) = blankedStretch run ++ blanked rest := by
  have inside' : ∀ c ∈ run, (!isEndOfLine c) = true := by simpa using inside
  have stop' : ∀ c ∈ rest.head?, (!isEndOfLine c) = false := by simpa using stop
  rw [blanked]
  split
  · next left =>
    rw [Direct.dropWhile_run inside' stop'] at left
    rw [left, blanked_nil, List.append_nil, List.append_nil]
  · next c more left =>
    rw [Direct.dropWhile_run inside' stop'] at left
    subst left
    rw [Direct.takeWhile_run inside' stop', blanked_endOfLine (stop c rfl)]

/-- Only a comment sign changes what follows it. -/
theorem blanked_cons (plain : isCommentStart c = false) : blanked (c :: cs) = c :: blanked cs := by
  cases ends : isEndOfLine c with
  | true => exact blanked_endOfLine ends
  | false =>
    obtain ⟨run, rest, rfl, inside, stop⟩ := exists_run (!isEndOfLine ·) cs
    have inside' : ∀ d ∈ run, isEndOfLine d = false := by simpa using inside
    have stop' : ∀ d ∈ rest.head?, isEndOfLine d = true := by simpa using stop
    have first : blankedStretch (c :: run) = c :: blankedStretch run := by
      simp [blankedStretch, plain]
    rw [← List.cons_append, blanked_stretch (by simpa [ends] using inside') stop', first,
      blanked_stretch inside' stop', List.cons_append]

/-- A comment becomes as many blanks. -/
theorem blanked_comment (is : IsComment body) (stop : ∀ c ∈ rest.head?, isEndOfLine c = true) :
    blanked (body ++ rest) = List.replicate body.length ' ' ++ blanked rest := by
  rw [blanked_stretch (Direct.not_endOfLine_of_isComment is) stop]
  obtain ⟨tail, rfl, -⟩ := is
  have sign : isCommentStart '#' = true := rfl
  simp [blankedStretch, sign, List.map_const', List.replicate_succ]

theorem trivia_blanks (n : Nat) : Trivia (List.replicate n ' ') := by
  induction n with
  | zero => exact .nil
  | succ n ih => exact .blank rfl ih

/-- What is left behind blanks and comments is left behind the blanks in place of the comments. -/
theorem skip_blanked (cs : List Char) : skip (blanked cs) = blanked (skip cs) := by
  fun_induction skip cs with
  | case1 => rw [blanked_nil, skip]
  | case2 c cs blank ih =>
    have plain : isCommentStart c = false :=
      CharClass.test_of_other (k := .whitespace) (l := .commentStart) blank (by simp) (by simp)
        (by simp)
    rw [blanked_cons plain, Direct.skip_blank blank, ih]
  | case3 c cs _ starts ih =>
    obtain ⟨body, rest, split, is, stop, behind⟩ := Direct.exists_comment starts cs
    rw [behind] at ih ⊢
    rw [split, blanked_comment is stop, Direct.skip_append_of_trivia (trivia_blanks _), ih]
  | case4 c cs blank comment =>
    have plain : isCommentStart c = false := by simpa using comment
    rw [blanked_cons plain, Direct.skip_of_head (by simpa using blank) plain]

/-! ## Positions -/

/-- Where the line feeds of a text are. -/
def feeds (cs : List Char) : List Bool := cs.map (· == '\n')

/-- The position behind a text depends on its line feeds alone. -/
theorem behind_of_feeds {as bs : List Char} (same : feeds as = feeds bs) :
    Position.behind as = .behind bs := by
  have lines (cs : List Char) : cs.count '\n' = (feeds cs).count true := by
    simp [feeds, List.count, List.countP_map, Function.comp_def]
  have columns (cs : List Char) : (cs.reverse.takeWhile (· != '\n')).length =
      ((feeds cs).reverse.takeWhile (!·)).length := by
    simp [feeds, ← List.map_reverse, List.takeWhile_map, Function.comp_def, bne]
  rw [Position.behind, Position.behind, lines, lines, columns, columns, same]

theorem feeds_of_not_endOfLine (inside : ∀ c ∈ run, isEndOfLine c = false) :
    feeds run = List.replicate run.length false := by
  apply List.eq_replicate_iff.mpr
  constructor
  · exact List.length_map ..
  · intro b mem
    obtain ⟨c, given, rfl⟩ := List.mem_map.mp mem
    have ends := inside c given
    simp only [isEndOfLine, Bool.or_eq_false_iff] at ends
    exact ends.1

theorem feeds_blankedStretch (inside : ∀ c ∈ run, isEndOfLine c = false) :
    feeds (blankedStretch run) = feeds run := by
  have size : (blankedStretch run).length = run.length := by
    rw [blankedStretch, List.length_append, List.length_map, ← List.length_append,
      List.takeWhile_append_dropWhile]
  have inside' : ∀ c ∈ blankedStretch run, isEndOfLine c = false := by
    intro c mem
    rcases List.mem_append.mp mem with mem | mem
    · exact inside c ((List.takeWhile_sublist _).subset mem)
    · obtain ⟨_, _, rfl⟩ := List.mem_map.mp mem
      rfl
  rw [feeds_of_not_endOfLine inside, feeds_of_not_endOfLine inside', size]

theorem feeds_blanked (cs : List Char) : feeds (blanked cs) = feeds cs := by
  have inside (cs : List Char) : ∀ c ∈ cs.takeWhile (!isEndOfLine ·), isEndOfLine c = false := by
    intro c mem
    simpa using List.all_eq_true.mp List.all_takeWhile c mem
  have split (cs : List Char) :
      cs.takeWhile (!isEndOfLine ·) ++ cs.dropWhile (!isEndOfLine ·) = cs :=
    List.takeWhile_append_dropWhile
  fun_induction blanked cs with
  | case1 cs left =>
    have whole := split cs
    rw [left, List.append_nil] at whole
    have all := inside cs
    rw [whole] at all
    exact feeds_blankedStretch all
  | case2 cs c rest left ih =>
    have parts (as bs : List Char) : feeds (as ++ c :: bs) =
        feeds as ++ (c == '\n') :: feeds bs := List.map_append
    calc
      _ = feeds (cs.takeWhile (!isEndOfLine ·)) ++ (c == '\n') :: feeds rest := by
        rw [parts, feeds_blankedStretch (inside cs), ih]
      _ = feeds cs := by rw [← parts, ← left, split]

theorem rewrites_blanked : Rewrites blanked where
  nil := blanked_nil
  keeps c cs solid := blanked_cons (Bool.or_eq_false_iff.mp solid).2
  separates c cs separates := by
    cases sign : isCommentStart c with
    | false => exact ⟨c, blanked cs, blanked_cons sign, separates⟩
    | true =>
      obtain ⟨body, rest, split, is, stop, -⟩ := Direct.exists_comment sign cs
      rw [split, blanked_comment is stop]
      obtain ⟨tail, rfl, -⟩ := is
      exact ⟨' ', _, rfl, rfl⟩
  skips := skip_blanked
  places before before' front _ whole := by
    have same := congrArg feeds whole
    rw [feeds_blanked] at same
    simp only [feeds, List.map_append] at same
    apply behind_of_feeds
    have tail : feeds (blanked front) = feeds front := feeds_blanked front
    simp only [feeds] at tail ⊢
    rw [tail] at same
    exact (List.append_cancel_right same).symm

/-- **Comments mean blanks.** A source gives the same tokens, or the same error at the same
position, when every comment sign, and all that follows it up to the end of its line, is a blank. -/
theorem tokenize_blanked (source : String) (file file' : Option String) :
    tokenize (String.ofList (blanked source.toList)) file' = tokenize source file :=
  rewrites_blanked.tokenize_eq source file file'

end Lexical
