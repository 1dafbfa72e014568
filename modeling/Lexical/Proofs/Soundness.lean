import Lexical.Proofs.Position
import Lexical.Proofs.Session

/-! What a scanner keeps besides its source is a true account of how far it has read.

* `Scanner.Sound`: the cursor says what the counters and the slot hold, and the counters have room;
* `Sound.forecasts`: so the position is that of the next character, and the end is seen in time;
* `Between.sound`: a scanner that stands between two parts of a small text is sound;
* `TurnOf`: the turns that a call takes, which `TurnOf.between` and `TurnOf.fewPoints` follow;
* `Turn.putsBackOnce`: the slot is filled at most once in a turn, and only when it is empty. -/
namespace Lexical

open Scanner (Clear Between)

namespace Scanner

/-- The scanner over `text` keeps true counts, and none of them will go round. -/
structure Sound (text : List Char) (s : Scanner) : Prop where
  source : s.source.toList = text
  cursor : s.cursor ≤ text.length
  place : s.place.Marks (text.take s.cursor)
  /-- Only the character right before the cursor was ever put back, with its own position. -/
  pending : ∀ p, s.pending = some p → 1 ≤ s.cursor ∧ text[s.cursor - 1]? = some p.char ∧
    p.position.Marks (text.take (s.cursor - 1))
  /-- The character at the cursor can be counted, whether it ends a line or takes a column. -/
  room : s.cursor < text.length →
    s.place.line.toNat + 1 < UInt32.size ∧ s.place.column.toNat + 1 < UInt32.size

/-- What the scanner shows from outside is what it will do. -/
structure Forecasts (text : List Char) (s : Scanner) : Prop where
  position : s.position.Marks (text.take s.offset)
  delivers : s.advance.map Prod.fst = text[s.offset]?.map fun c => ⟨c, s.position⟩
  atEnd : s.atEnd = true ↔ s.advance = none

variable {s : Scanner} {text read ahead : List Char} {p : Placed}

theorem Sound.forecasts (h : s.Sound text) : s.Forecasts text := by
  have sameEnd : s.atEnd = true ↔ s.advance = none := atEnd_iff.trans advance_eq_none_iff.symm
  cases slot : s.pending with
  | none =>
    have offset : s.offset = s.cursor := by simp [offset, slot]
    have position : s.position = s.place := by simp [position, slot]
    refine ⟨by rw [offset, position]; exact h.place, ?_, sameEnd⟩
    rw [offset, position, ← h.source, Array.getElem?_toList]
    simp only [advance, slot, Option.map_map]
    rfl
  | some p =>
    obtain ⟨-, char, marks⟩ := h.pending p slot
    have offset : s.offset = s.cursor - 1 := by simp [offset, slot]
    have position : s.position = p.position := by simp [position, slot]
    refine ⟨by rw [offset, position]; exact marks, ?_, sameEnd⟩
    rw [offset, position, char]
    simp [advance, slot]

/-- A character that was just read can be put back. -/
theorem Sound.unread (h : s.Sound text) (read : 1 ≤ s.cursor)
    (char : text[s.cursor - 1]? = some p.char)
    (marks : p.position.Marks (text.take (s.cursor - 1))) : (s.unread p).Sound text := by
  refine ⟨h.source, h.cursor, h.place, ?_, h.room⟩
  rintro q slot
  cases slot
  exact ⟨read, char, marks⟩

theorem Clear.sound (small : (read ++ ahead).length + 1 < UInt32.size) (h : s.Clear read ahead) :
    s.Sound (read ++ ahead) := by
  have counted : (Position.behind read).Marks read := by
    apply Position.marks_behind
    simp only [List.length_append] at small
    omega
  have place : s.place.Marks read := h.place ▸ counted
  refine ⟨h.source, by simp [h.cursor], by simpa [h.cursor] using place, by simp [h.pending], ?_⟩
  intro more
  have bound := place.le
  rw [h.cursor] at more
  omega

theorem Between.sound (small : (read ++ ahead).length + 1 < UInt32.size)
    (h : s.Between read ahead) : s.Sound (read ++ ahead) := by
  cases h with
  | clear h => exact h.sound small
  | @putBack s _ ahead c h =>
    rw [List.append_cons] at small ⊢
    have before : (read ++ [c] ++ ahead).take read.length = read := by simp
    refine (h.sound small).unread (by simp [h.cursor]) (by simp [h.cursor]) ?_
    rw [h.cursor, List.length_append, List.length_singleton, Nat.add_sub_cancel, before]
    apply Position.marks_behind
    simp only [List.length_append, List.length_singleton] at small
    omega

end Scanner

/-! ## The turns of a call -/

/-- The turns that a call of `s` takes, each at its beginning. -/
inductive TurnOf (s : Scanner) : Turn → Prop
  | begin : TurnOf s (.begin s)
  | again {t u : Turn} (h : TurnOf s t) (goes : t.step = .again u) : TurnOf s u

variable {s : Scanner} {t u : Turn} {read ahead text : List Char}

/-- A turn that goes on has read one character, and stands before it again if it put it back. -/
theorem Turn.between_of_again (h : t.scanner.Between read ahead) (goes : t.step = .again u) :
    ∃ taken rest, ahead = taken ++ rest ∧ u.scanner.Between (read ++ taken) rest := by
  cases ahead with
  | nil => simp [step, h.advance_nil] at goes
  | cons c cs =>
    obtain ⟨s, hs, clear⟩ := h.advance
    simp only [step, hs, move] at goes
    split at goes
    · cases goes
      cases (Move.ofMode t.lexeme c t.mode).use with
      | skip | keep => exact ⟨[c], cs, rfl, .clear clear⟩
      | putBack => exact ⟨[], c :: cs, rfl, by simpa [use] using Between.putBack clear⟩
    · cases goes
    · cases goes

theorem TurnOf.between (h : TurnOf s t) (start : s.Between read ahead) :
    ∃ read' ahead', read ++ ahead = read' ++ ahead' ∧ t.scanner.Between read' ahead' := by
  induction h with
  | begin => exact ⟨read, ahead, rfl, start⟩
  | again _ goes ih =>
    obtain ⟨read', ahead', split, between⟩ := ih
    obtain ⟨taken, rest, rfl, between'⟩ := Turn.between_of_again between goes
    exact ⟨read' ++ taken, rest, by simpa using split, between'⟩

/-- Once a lexeme is begun it stays begun, and the automaton never lets it hold too many points. -/
theorem Move.points_of_keep {l : Lexeme} {c : Char} {mode next : Mode}
    (m : ofMode l c mode = ⟨.keep, .goOn next⟩) (few : l.points ≤ maxPoints)
    (none : mode.isTrivia = true → l.points = 0) :
    (l.push c).points ≤ maxPoints ∧ next.isTrivia = false := by
  have plain (is : isWordPart c = true) : (l.push c).points = l.points := by
    have noPoint : isPoint c = false :=
      CharClass.test_of_isWordPart (l := .point) is (by simp) (by simp)
    simp [Lexeme.push, noPoint]
  cases mode with
  | start =>
    have zero := none rfl
    simp only [ofMode, start] at m
    split at m <;> cases m <;> simp only [Lexeme.push, zero]
    all_goals split <;> decide
  | comment => simp only [ofMode, comment] at m; split at m <;> cases m
  | word =>
    simp only [ofMode, word] at m
    split at m
    · next is => cases m; exact ⟨by rwa [plain is], rfl⟩
    · split at m <;> cases m
  | equals => simp only [ofMode, equals] at m; split at m <;> cases m
  | comparison => simp only [ofMode, comparison] at m; split at m <;> cases m
  | integer =>
    simp only [ofMode, integer] at m
    split at m
    · next is => cases m; exact ⟨by rwa [plain (by simp [isWordPart, is])], rfl⟩
    · split at m
      · cases m
      · split at m <;> cases m
  | fraction =>
    simp only [ofMode, fraction] at m
    split at m
    · next is => cases m; exact ⟨by rwa [plain (by simp [isWordPart, is])], rfl⟩
    · split at m
      · next point =>
        split at m
        · cases m
        · next room =>
          cases m
          exact ⟨by simpa [Lexeme.push, point] using room, rfl⟩
      · split at m <;> cases m

/-- Before a lexeme nothing but blanks and comments is passed over. -/
theorem Move.isTrivia_of_skip {l : Lexeme} {c : Char} {mode next : Mode}
    (m : ofMode l c mode = ⟨.skip, .goOn next⟩) : mode.isTrivia = true := by
  cases mode <;>
    simp only [ofMode, word, equals, comparison, integer, fraction] at m <;> first | rfl | grind

/-- No point is counted before a lexeme, and no more than a number may have in it. -/
def Turn.FewPoints (t : Turn) : Prop :=
  t.lexeme.points ≤ maxPoints ∧ (t.mode.isTrivia = true → t.lexeme.points = 0)

theorem Turn.fewPoints_of_again (few : t.FewPoints) (goes : t.step = .again u) : u.FewPoints := by
  unfold step at goes
  split at goes
  · cases goes
  · next p s hs =>
    unfold move at goes
    split at goes
    · next mode sequel =>
      cases goes
      cases used : (Move.ofMode t.lexeme p.char t.mode).use with
      | skip =>
        have before := Move.isTrivia_of_skip (Move.ext used sequel)
        exact ⟨few.1, fun _ => few.2 before⟩
      | keep =>
        obtain ⟨points, begun⟩ := Move.points_of_keep (Move.ext used sequel) few.1 few.2
        exact ⟨points, by simp [use, begun]⟩
      | putBack =>
        obtain ⟨-, becomes⟩ := Move.mode_of_putBack_goOn (Move.ext used sequel)
        exact ⟨few.1, by simp [use, becomes, Mode.isTrivia]⟩
    · cases goes
    · cases goes

theorem TurnOf.fewPoints (h : TurnOf s t) : t.FewPoints := by
  induction h with
  | begin =>
    have none : (0 : UInt32) ≤ maxPoints := by decide
    exact ⟨none, fun _ => rfl⟩
  | again _ goes ih => exact Turn.fewPoints_of_again ih goes

/-! ## The slot -/

/-- The scanner when a step is done. -/
def Step.scanner : Step → Scanner
  | .again u => u.scanner
  | .done call => call.scanner

/-- What was told the log when a step is done. -/
def Step.events : Step → List Event
  | .again u => u.events
  | .done call => call.events

/-- In the turn only the character that it has just read is put back, once and into an empty
slot. -/
def Turn.PutsBackOnce (t : Turn) : Prop :=
  ∃ new, t.step.events = t.events ++ new ∧ ∀ p,
    new.count (.putBack p) = (if t.step.scanner.pending = some p then 1 else 0) ∧
    (Event.putBack p ∈ new → ∃ u, t.scanner.advance = some (p, u) ∧ u.pending = none)

theorem Turn.putsBackOnce (t : Turn) : t.PutsBackOnce := by
  cases hs : t.scanner.advance with
  | none =>
    have empty : t.scanner.pending = none := by
      have nothing := Scanner.advance_eq_none_iff.mp hs
      cases slot : t.scanner.pending <;> simp_all [Scanner.ahead]
    unfold PutsBackOnce
    simp only [step, hs, sourceEnded]
    split
    · exact ⟨[], by simp [Step.events], by simp [Step.scanner, Scanner.finish, empty]⟩
    · exact ⟨_, rfl, by simp [Step.scanner, fail, Scanner.finish, empty]⟩
  | some read =>
    obtain ⟨p, s⟩ := read
    have empty : s.pending = none := (Scanner.advance_eq_some hs).2.2
    unfold PutsBackOnce
    simp only [step, hs, move]
    cases (Move.ofMode t.lexeme p.char t.mode).use with
    | skip | keep =>
      split
      · exact ⟨[], by simp [Step.events, use], by simp [Step.scanner, use, empty]⟩
      · exact ⟨_, rfl, by simp [Step.scanner, use, emit, empty]⟩
      · exact ⟨_, rfl, by simp [Step.scanner, use, fail, Scanner.finish, empty]⟩
    | putBack =>
      have once (later : List Event) (none : ∀ q, .putBack q ∉ later) (q : Placed) :
          (.putBack p :: later).count (.putBack q) =
              (if some p = some q then 1 else 0) ∧
            (Event.putBack q ∈ .putBack p :: later →
              ∃ u, some (p, s) = some (q, u) ∧ u.pending = Option.none) := by
        constructor
        · simp [List.count_cons, List.count_eq_zero.mpr (none q)]
        · intro mem
          rcases List.mem_cons.mp mem with mem | mem
          · cases mem
            exact ⟨s, rfl, empty⟩
          · exact absurd mem (none q)
      split
      · exact ⟨_, rfl, once [] (by simp)⟩
      · exact ⟨_, List.append_assoc .., once [_] (by simp)⟩
      · exact ⟨_, List.append_assoc .., once [_] (by simp)⟩

/-- The turn begins with a sound scanner and has room for one more point. -/
structure Turn.Sound (text : List Char) (t : Turn) : Prop where
  scanner : t.scanner.Sound text
  forecasts : t.scanner.Forecasts text
  points : t.lexeme.points.toNat + 1 < UInt32.size
  putsBackOnce : t.PutsBackOnce

variable {source : String} {file : Option String} {answers : List Answer}
  {members : List (List Answer × Scanner)}

/-- **Nothing is miscounted.** Whatever was asked of a scanner, of those that it was cloned from and
of its clones, it is sound, and so it is at every turn of its next call. -/
theorem scanner_keeps_account (small : source.length + 1 < UInt32.size)
    (h : Family source file members) (mem : (answers, s) ∈ members) :
    s.Sound source.toList ∧ s.Forecasts source.toList ∧
      ∀ t, TurnOf s t → t.Sound source.toList := by
  rw [← String.length_toList] at small
  have between := (h.session _ mem).between
  have sound : s.Sound source.toList := by
    have sound := between.sound (by rwa [List.take_append_drop])
    rwa [List.take_append_drop] at sound
  refine ⟨sound, sound.forecasts, fun t turn => ?_⟩
  obtain ⟨read, ahead, split, within⟩ := turn.between between
  rw [List.take_append_drop] at split
  have sound : t.scanner.Sound source.toList := by
    rw [split] at small ⊢
    exact within.sound small
  have few : t.lexeme.points.toNat ≤ maxPoints.toNat :=
    UInt32.le_iff_toNat_le.mp turn.fewPoints.1
  have room : maxPoints.toNat + 1 < UInt32.size := by decide
  exact ⟨sound, sound.forecasts, by omega, t.putsBackOnce⟩

/-- The call of the first scanner has put the point back and not read it again; the slot of the
second, a clone that was called, holds the blank. -/
theorem scanner_keeps_account_behind_point :
    let s := Scanner.ofString "7.5 x" none
    let members := [([], s), ([.report s.nextToken.outcome], s.nextToken.scanner)]
    let point : Placed := ⟨'.', ⟨1, 2⟩⟩
    let t : Turn := ⟨⟨"7.5 x".toList.toArray, 2, ⟨1, 3⟩, some point, "shell", false⟩, .fraction,
      ⟨"7", 0⟩, [.putBack point]⟩
    "7.5 x".length + 1 < UInt32.size ∧ Family "7.5 x" none members ∧ TurnOf s t ∧
    s.nextToken.scanner.pending = some ⟨' ', ⟨1, 4⟩⟩ ∧
    t.Sound "7.5 x".toList ∧ s.nextToken.scanner.Sound "7.5 x".toList := by
  intro s members point t
  have small : "7.5 x".length + 1 < UInt32.size := by decide
  have family : Family "7.5 x" none members := by
    have cloned : Family "7.5 x" none ([([], s)] ++ ([], s) :: []) :=
      .clone .opened (List.mem_singleton_self _)
    exact cloned.nextToken
  have first : (Turn.begin s).step =
      .again ⟨⟨"7.5 x".toList.toArray, 1, ⟨1, 2⟩, none, "shell", false⟩, .integer, ⟨"7", 0⟩,
        []⟩ := by decide +kernel
  have turn : TurnOf s t := .again (.again .begin first) (by decide +kernel)
  have caller : ([], s) ∈ members := List.mem_cons_self
  have clone : ([.report s.nextToken.outcome], s.nextToken.scanner) ∈ members :=
    List.mem_cons_of_mem _ List.mem_cons_self
  exact ⟨small, family, turn, by decide +kernel,
    (scanner_keeps_account small family caller).2.2 t turn,
    (scanner_keeps_account small family clone).1⟩

end Lexical
