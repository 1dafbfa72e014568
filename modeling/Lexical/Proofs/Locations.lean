import Lexical.Proofs.Excerpt
import Lexical.Proofs.LineEnds
import Lexical.Proofs.Progress

/-! Where the position of a scanner lies among the lines of its source.

The scanner counts lines and columns as it reads, and `line?` takes the text apart at its line feeds
and drops carriage returns. They agree on every line, and the column says what comes next: a
character of the line as `line?` gives it, one of the carriage returns behind that, or its end. -/
namespace Lexical

open Scanner (Between)

/-- Whether a reader meets the position `p` before `q`. -/
def Position.Before (p q : Position) : Prop :=
  p.line < q.line ∨ p.line = q.line ∧ p.column < q.column

/-- The position names `line`, behind which `returns` carriage returns stand at the end of that line
of the source, and a column in all that or right behind it. What is `ahead` begins there. -/
structure Position.Locates (p : Position) (source : String) (ahead : List Char) (line : String)
    (returns : Nat) : Prop where
  has : line? source p.line = some line
  segment : (source.toList.splitOn '\n')[p.line.toNat - 1]? =
    some (line.toList ++ List.replicate returns '\r')
  clean : '\n' ∉ line.toList
  trimmed : line.toList.getLast? ≠ some '\r'
  positive : 1 ≤ p.column.toNat
  within : p.column.toNat ≤ line.length + returns + 1
  inLine : p.column.toNat ≤ line.length → ahead.head? = line.toList[p.column.toNat - 1]?
  inReturns : line.length < p.column.toNat → p.column.toNat ≤ line.length + returns →
    ahead.head? = some '\r'
  behind : p.column.toNat = line.length + returns + 1 → ahead.head? = some '\n' ∨ ahead = []

variable {source : String} {file : Option String} {s t : Scanner} {answers answers' : List Answer}
  {cs as bs before rest : List Char} {p q : Position} {n : UInt32}

/-! ## Carriage returns at the end of a line -/

/-- A line that does not end in a carriage return is taken as it is. -/
theorem withoutReturns_of_getLast? (last : cs.getLast? ≠ some '\r') : withoutReturns cs = cs := by
  change cs.rdropWhile (· == '\r') = cs
  rw [List.rdropWhile_eq_self_iff]
  intro some
  simpa [List.getLast?_eq_some_getLast some] using last

theorem getLast?_withoutReturns (cs : List Char) : (withoutReturns cs).getLast? ≠ some '\r' := by
  change (cs.rdropWhile (· == '\r')).getLast? ≠ some '\r'
  intro last
  have some : cs.rdropWhile (· == '\r') ≠ [] := by
    intro none
    rw [none] at last
    cases last
  apply List.rdropWhile_last_not _ cs some
  simpa [List.getLast?_eq_some_getLast some] using last

theorem exists_withoutReturns (cs : List Char) :
    ∃ returns, cs = withoutReturns cs ++ List.replicate returns '\r' := by
  obtain ⟨returns, split, all⟩ := Excerpt.exists_trimEndWhile (· == '\r') cs
  refine ⟨returns.length, ?_⟩
  have same : returns = List.replicate returns.length '\r' := by
    apply List.eq_replicate_iff.mpr
    exact ⟨rfl, by simpa using all⟩
  rw [← same]
  exact split

/-! ## Positions among lines -/

/-- What comes next is in the line, or the line is over. -/
theorem head?_cases_firstLine (rest : List Char) :
    (∃ c, rest.head? = some c ∧ (firstLine rest).head? = some c) ∨
      firstLine rest = [] ∧ (rest.head? = some '\n' ∨ rest = []) := by
  cases rest with
  | nil => exact .inr ⟨rfl, .inr rfl⟩
  | cons c rest =>
    by_cases feed : c = '\n'
    · exact .inr ⟨by simp [firstLine, feed], .inl (by simp [feed])⟩
    · exact .inl ⟨c, rfl, by simp [firstLine, feed]⟩

namespace Position

/-- The line that a position names runs up to the carriage returns that end it in the source. -/
theorem Marks.exists_line (h : p.Marks before) (split : source.toList = before ++ rest) :
    ∃ line returns, line? source p.line = some (.ofList line) ∧ line.getLast? ≠ some '\r' ∧
      lastLine before ++ firstLine rest = line ++ List.replicate returns '\r' := by
  obtain ⟨returns, segment⟩ := exists_withoutReturns (lastLine before ++ firstLine rest)
  exact ⟨_, returns, h.line?_eq split, getLast?_withoutReturns _, segment⟩

theorem Marks.exists_locates (h : p.Marks before) (split : source.toList = before ++ rest) :
    ∃ line returns, p.Locates source rest line returns := by
  obtain ⟨line, returns, has, trimmed, segment⟩ := h.exists_line split
  have clean : '\n' ∉ lastLine before ++ firstLine rest := by
    simpa using ⟨clean_lastLine before, clean_firstLine rest⟩
  have sizes := congrArg List.length segment
  have place := getElem?_behind (lastLine before) (firstLine rest)
  have column : p.column.toNat - 1 = (lastLine before).length := by
    rw [h.column_eq, Nat.add_sub_cancel]
  have positive : 1 ≤ p.column.toNat := by
    rw [h.column_eq]
    exact Nat.le_add_left 1 _
  rw [List.length_append, List.length_append, List.length_replicate, ← column] at sizes
  rw [segment] at clean
  rw [segment, ← column] at place
  refine ⟨.ofList line, returns, has, ?_, ?_, ?_, positive, ?_, ?_, ?_, ?_⟩ <;>
    simp only [String.toList_ofList, String.length_ofList]
  · rw [split, h.line, Nat.add_sub_cancel, getElem?_splitOn, segment]
  · exact fun mem => clean (List.mem_append_left _ mem)
  · exact trimmed
  · omega
  · intro inside
    rw [List.getElem?_append_left (by omega)] at place
    rcases head?_cases_firstLine rest with ⟨c, next, first⟩ | ⟨first, -⟩
    · rw [next, place, first]
    · rw [first, List.length_nil] at sizes
      omega
  · intro outside inside
    rw [List.getElem?_append_right (by omega), List.getElem?_replicate_of_lt (by omega)] at place
    rcases head?_cases_firstLine rest with ⟨c, next, first⟩ | ⟨first, -⟩
    · rw [next, ← first, place]
    · rw [first] at place
      cases place
  · intro past
    have nothing : (line ++ List.replicate returns '\r')[p.column.toNat - 1]? = none := by
      apply List.getElem?_eq_none
      rw [List.length_append, List.length_replicate]
      omega
    rcases head?_cases_firstLine rest with ⟨c, -, first⟩ | ⟨-, ends⟩
    · rw [nothing, first] at place
      cases place
    · exact ends

theorem not_before_self (p : Position) : ¬p.Before p := by
  rintro (less | ⟨-, less⟩)
  · exact UInt32.lt_irrefl _ less
  · exact UInt32.lt_irrefl _ less

/-- Reading on leads to a later position. -/
theorem Marks.before_of_append (h : p.Marks as) (h' : q.Marks (as ++ bs)) (more : bs ≠ []) :
    p.Before q := by
  have lines := h'.line
  rw [List.count_append] at lines
  by_cases feed : '\n' ∈ bs
  · have some := List.count_pos_iff.mpr feed
    left
    rw [UInt32.lt_iff_toNat_lt, h.line]
    omega
  · have columns := h'.column_eq
    rw [lastLine_append feed, List.length_append] at columns
    rw [List.count_eq_zero.mpr feed, Nat.add_zero, ← h.line] at lines
    have some := List.length_pos_iff.mpr more
    refine .inr ⟨(UInt32.toNat_inj.mp lines).symm, ?_⟩
    rw [UInt32.lt_iff_toNat_lt, h.column_eq]
    omega

/-- A source has the lines up to that of the position at its end. -/
theorem Marks.line?_eq_none_iff (h : p.Marks source.toList) :
    line? source n = none ↔ n = 0 ∨ p.line < n := by
  by_cases zero : n = 0
  · simp [line?, zero]
  · have positive : 0 < n.toNat := by
      apply Nat.pos_of_ne_zero
      exact fun none => zero (UInt32.toNat_inj.mp none)
    rw [or_iff_right zero, line?, if_neg zero, Option.map_eq_none_iff, List.getElem?_eq_none_iff,
      length_splitOn, UInt32.lt_iff_toNat_lt, h.line]
    omega

end Position

theorem Session.marks (small : source.length + 1 < UInt32.size) (h : Session source file answers s) :
    s.position.Marks (source.toList.take s.offset) := by
  rw [h.between.position]
  apply Position.marks_behind
  have within := List.length_take_le' s.offset source.toList
  rw [String.length_toList] at within
  omega

theorem Session.before_of_offset_lt (small : source.length + 1 < UInt32.size)
    (h : Session source file answers s) (h' : Session source file answers' t)
    (less : s.offset < t.offset) : s.position.Before t.position := by
  have split := List.take_append_drop s.offset (source.toList.take t.offset)
  rw [List.take_take, Nat.min_eq_left (Nat.le_of_lt less)] at split
  have later := h'.marks small
  rw [← split] at later
  apply (h.marks small).before_of_append later
  intro nothing
  have size := h'.offset_add_remaining
  rw [← String.length_toList] at size
  have none := List.drop_eq_nil_iff.mp nothing
  rw [List.length_take, Nat.min_eq_left (by omega)] at none
  omega

/-- **Positions and lines are of one text.** In every state that a session leaves, the source has
the line that the position names, and the column says what comes next. Of two scanners over a
source, the one that has read more has the later position, so that no two places share one. And
there are as many lines as the position at the end says. -/
theorem positions_name_lines (small : source.length + 1 < UInt32.size)
    (h : Reachable source file s) :
    (∃ line returns, s.position.Locates source s.ahead line returns) ∧
    (∀ t, Reachable source file t → s.offset < t.offset → s.position.Before t.position) ∧
    (∀ t, Reachable source file t → s.offset ≠ t.offset → s.position ≠ t.position) ∧
    (s.nextToken.outcome = .endOfSource →
      ∀ n, line? source n = none ↔ n = 0 ∨ s.nextToken.scanner.position.line < n) := by
  obtain ⟨answers, session⟩ := h
  refine ⟨?_, ?_, ?_, ?_⟩
  · rw [session.between.ahead_eq]
    exact (session.marks small).exists_locates (List.take_append_drop ..).symm
  · rintro t ⟨answers', session'⟩ less
    exact session.before_of_offset_lt small session' less
  · rintro t ⟨answers', session'⟩ apart same
    rcases Nat.lt_or_gt_of_ne apart with less | more
    · have before := session.before_of_offset_lt small session' less
      rw [same] at before
      exact t.position.not_before_self before
    · have before := session'.before_of_offset_lt small session more
      rw [same] at before
      exact t.position.not_before_self before
  · intro ended n
    rw [← String.length_toList] at small
    have exhausted := (session.between_of_endOfSource ended).exhausted small
    exact exhausted.position.line?_eq_none_iff

/-- Behind the second word two carriage returns end the line, and the first was put back. -/
theorem positions_name_lines_behind_word :
    let source := "y\nx\r\r\n"
    let s := (Scanner.ofString source none).nextToken.scanner
    let t := s.nextToken.scanner
    source.length + 1 < UInt32.size ∧ Reachable source none s ∧ Reachable source none t ∧
    t.position = ⟨2, 2⟩ ∧ t.position.Locates source t.ahead "x" 2 ∧
    s.offset < t.offset ∧ s.position.Before t.position ∧
    t.nextToken.outcome = .endOfSource ∧ t.nextToken.scanner.position.line = 3 ∧
    ∀ n, line? source n = none ↔ n = 0 ∨ 3 < n := by
  intro source s t
  have small : source.length + 1 < UInt32.size := by decide
  have first : Reachable source none s := ⟨_, .nextToken .opened⟩
  have second : Reachable source none t := ⟨_, .nextToken (.nextToken .opened)⟩
  have less : s.offset < t.offset := by decide +kernel
  have position : t.position = ⟨2, 2⟩ := by decide +kernel
  have ended : t.nextToken.outcome = .endOfSource := by decide +kernel
  have lines : t.nextToken.scanner.position.line = 3 := by decide +kernel
  have has : line? source 2 = some "x" := by decide +kernel
  have segment : (source.toList.splitOn '\n')[1]? = some ['x', '\r', '\r'] := by decide +kernel
  obtain ⟨-, later, -⟩ := positions_name_lines small first
  obtain ⟨⟨line, returns, locates⟩, -, -, missing⟩ := positions_name_lines small second
  have named := locates.has
  rw [position, has] at named
  cases named
  have two : returns = 2 := by
    have same := locates.segment
    rw [position] at same
    have size := congrArg (Option.map List.length) (same.symm.trans segment)
    simpa using size
  have numbered := missing ended
  rw [lines] at numbered
  exact ⟨small, first, second, position, two ▸ locates, less, later t second less, ended, lines,
    numbered⟩

end Lexical
