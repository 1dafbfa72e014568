import Lexical.Proofs.Session
import Lexical.Proofs.Tokenize
import Mathlib.Control.Monad.Basic

/-! What stays as it was when text is appended to a source.

A token or an error is settled by a character that stands behind the lexeme, or by the lexeme alone.
Only that the source ends, within a lexeme or between two, is reported because nothing follows; what
was reported until then is reported of the longer source as well. -/
namespace Lexical

open Grammar
open Scanner (Between)

namespace Grammar

variable {t : Token} {rest cs lexeme lost place : List Char} {fault : Fault} {c : Char}

theorem IsClosed.mayFollow (h : IsClosed t) (c : Char) : MayFollow t c := by
  rcases h with h | h | ⟨h, two⟩ <;> simp only [MayFollow, h]
  omega

theorem Fits.append (h : Fits t rest) (more : List Char) : Fits t (rest ++ more) := by
  cases rest with
  | nil => exact ⟨h.formed, fun c _ => (h.closed rfl).mayFollow c, fun _ => h.closed rfl⟩
  | cons c rest => exact ⟨h.formed, h.apart, by simp⟩

theorem Diagnosis.append (h : Diagnosis cs fault lexeme lost place) (more : List Char)
    (goesOn : fault ≠ .unexpectedEndOfInput) :
    Diagnosis (cs ++ more) fault lexeme lost place := by
  cases h with
  | invalidCharacter invalid => exact .invalidCharacter invalid
  | malformedIdentifier is invalid =>
    rw [List.append_assoc]
    exact .malformedIdentifier is invalid
  | unexpectedCharacter is stray =>
    rw [List.append_assoc]
    exact .unexpectedCharacter is stray
  | trailingPoint before noDigit noPoint =>
    rw [List.append_assoc]
    exact .trailingPoint before noDigit noPoint
  | @tooManyPoints whole part rest before behind =>
    have split : whole ++ '.' :: (part ++ '.' :: rest) ++ more =
        whole ++ '.' :: (part ++ '.' :: (rest ++ more)) := by simp
    rw [split]
    exact .tooManyPoints before behind
  | unexpectedEndOfInput => exact absurd rfl goesOn

end Grammar

/-- The report does not say that the source ends. -/
def Outcome.isSettled : Outcome → Bool
  | token _ => true
  | failure e => e.fault != .unexpectedEndOfInput
  | endOfSource => false

variable {s t : Scanner} {read ahead more : List Char} {outcomes outcomes' : List Outcome}
  {items items' : List Item} {tokens : List Token} {e : ScanError} {n m : Nat}

namespace Scanner

theorem Between.nextToken_append (h : s.Between read ahead) (h' : t.Between read (ahead ++ more))
    (settled : s.nextToken.outcome.isSettled = true) :
    t.nextToken.outcome = s.nextToken.outcome ∧
      ∃ read' ahead', s.nextToken.scanner.Between read' ahead' ∧
        t.nextToken.scanner.Between read' (ahead' ++ more) := by
  cases meets ahead with
  | endOfSource final =>
    rw [(h.nextToken_of_finalTrivia final).1] at settled
    cases settled
  | @token gap rest u blank fits =>
    obtain ⟨outcome, between⟩ := h.nextToken_of_fits blank fits
    rw [List.append_assoc, List.append_assoc] at h'
    obtain ⟨outcome', between'⟩ := h'.nextToken_of_fits blank (fits.append more)
    exact ⟨outcome'.trans outcome.symm, _, rest, between, between'⟩
  | @fault gap front lexeme lost place fault blank wrong =>
    obtain ⟨outcome, rest, split, between⟩ := h.nextToken_of_diagnosis blank wrong
    rw [outcome] at settled
    have longer := wrong.append more (by simpa [Outcome.isSettled] using settled)
    rw [List.append_assoc] at h'
    obtain ⟨outcome', rest', split', between'⟩ := h'.nextToken_of_diagnosis blank longer
    rw [split, List.append_assoc] at split'
    rw [← List.append_cancel_left split'] at between'
    exact ⟨outcome'.trans outcome.symm, _, rest, between, between'⟩

/-- The scanners stay in step as long as the one with less ahead has settled reports. -/
theorem Between.reports_append (h : s.Between read ahead) (h' : t.Between read (ahead ++ more))
    (n : Nat) : (s.reports n).takeWhile Outcome.isSettled <+: t.reports n := by
  induction n generalizing s t read ahead with
  | zero => exact List.nil_prefix
  | succ n ih =>
    rw [reports_succ, reports_succ]
    cases settled : s.nextToken.outcome.isSettled with
    | false =>
      rw [List.takeWhile_cons_of_neg (by simp [settled])]
      exact List.nil_prefix
    | true =>
      obtain ⟨same, read', ahead', between, between'⟩ := h.nextToken_append h' settled
      rw [List.takeWhile_cons_of_pos settled, same]
      exact List.cons_prefix_cons.mpr ⟨rfl, ih between between'⟩

theorem reports_mono (s : Scanner) (le : n ≤ m) : s.reports n <+: s.reports m := by
  induction n generalizing s m with
  | zero => exact List.nil_prefix
  | succ n ih =>
    cases m with
    | zero => omega
    | succ m => exact List.cons_prefix_cons.mpr ⟨rfl, ih _ (by omega)⟩

end Scanner

/-! ## The stream of the reports -/

/-- The items of a stream with these reports: it ends with the first error, or with the source. -/
def itemsOf : List Outcome → List Item
  | .token t :: outcomes => .ok t :: itemsOf outcomes
  | .failure e :: _ => [.error e]
  | .endOfSource :: _ => []
  | [] => []

theorem Scanner.items_take (going : s.finished = false) (n : Nat) :
    (s.take n).items = itemsOf (s.reports n) := by
  induction n generalizing s with
  | zero => rfl
  | succ n ih =>
    rw [reports_succ]
    cases outcome : s.nextToken.outcome with
    | token t =>
      have going' : s.nextToken.scanner.finished = false := by
        rw [finished_nextToken, going, outcome, Outcome.endsStream, Bool.or_false]
      rw [items_take_of_token going outcome, ih going', itemsOf]
    | failure e => rw [items_take_of_failure going outcome, itemsOf]
    | endOfSource => rw [items_take_of_endOfSource going outcome, itemsOf]

theorem itemsOf_mono (h : outcomes <+: outcomes') : itemsOf outcomes <+: itemsOf outcomes' := by
  obtain ⟨later, rfl⟩ := h
  fun_induction itemsOf outcomes with
  | case1 t outcomes ih => exact List.cons_prefix_cons.mpr ⟨rfl, ih⟩
  | case2 | case3 => exact List.prefix_rfl
  | case4 => exact List.nil_prefix

/-- Reports that are not settled add no token to the stream. -/
theorem filterMap_itemsOf_takeWhile (outcomes : List Outcome) :
    (itemsOf (outcomes.takeWhile Outcome.isSettled)).filterMap Except.toOption =
      (itemsOf outcomes).filterMap Except.toOption := by
  fun_induction itemsOf outcomes with
  | case1 t outcomes ih =>
    rw [List.takeWhile_cons_of_pos rfl, itemsOf]
    simp [Except.toOption, ih]
  | case2 e outcomes =>
    cases settled : (Outcome.failure e).isSettled <;> simp [settled, itemsOf, Except.toOption]
  | case3 => rfl
  | case4 => rfl

theorem mapM_token_cons (t : Token) (items : List Item) :
    (.ok t :: items : List Item).mapM id = (items.mapM id).map (t :: ·) :=
  mapM_tokens_append [t] items

/-- An error that is settled ends the stream before any report that is not. -/
theorem itemsOf_takeWhile (fails : (itemsOf outcomes).mapM id = .error e)
    (goesOn : e.fault ≠ .unexpectedEndOfInput) :
    itemsOf (outcomes.takeWhile Outcome.isSettled) = itemsOf outcomes := by
  fun_induction itemsOf outcomes with
  | case1 t outcomes ih =>
    have later : (itemsOf outcomes).mapM id = .error e := by
      rw [mapM_token_cons] at fails
      cases later : (itemsOf outcomes).mapM id with
      | error e' =>
        rw [later] at fails
        cases fails
        rfl
      | ok ts =>
        rw [later] at fails
        cases fails
    rw [List.takeWhile_cons_of_pos rfl, itemsOf, ih later]
  | case2 e' outcomes =>
    cases fails
    rw [List.takeWhile_cons_of_pos (by simpa [Outcome.isSettled] using goesOn), itemsOf]
  | case3 => cases fails
  | case4 => cases fails

theorem mapM_of_prefix (h : items <+: items') (fails : items.mapM id = .error e) :
    items'.mapM id = .error e := by
  obtain ⟨later, rfl⟩ := h
  rw [List.mapM_append, fails]
  rfl

theorem filterMap_of_mapM (accepted : items.mapM id = .ok tokens) :
    items.filterMap Except.toOption = tokens := by
  induction items generalizing tokens with
  | nil =>
    cases accepted
    rfl
  | cons item items ih =>
    cases item with
    | error e => cases accepted
    | ok t =>
      rw [mapM_token_cons] at accepted
      cases later : items.mapM id with
      | error e =>
        rw [later] at accepted
        cases accepted
      | ok ts =>
        rw [later] at accepted
        cases accepted
        rw [List.filterMap_cons, ih later]
        rfl

/-- The tokens of a run, up to the error that ends it. -/
def Run.emitted (r : Run) : List Token := r.items.filterMap Except.toOption

theorem Scanner.rest_items (source : String) (file : Option String) :
    (ofString source file).rest.items =
      itemsOf ((ofString source file).reports (source.length + 1)) := by
  rw [rest, items_take rfl, (between_ofString source file).remaining, String.length_toList]

/-- **What was reported stays.** Text that is appended to a source changes no report that does not
say that the source ends. So an error of `tokenize` stays as it is, unless it is of that kind, and
the tokens that were emitted are emitted of the longer source as well. -/
theorem appending_keeps_reports (a b : String) (file file' : Option String) :
    (∀ n, ((Scanner.ofString a file).reports n).takeWhile Outcome.isSettled <+:
      (Scanner.ofString (a ++ b) file').reports n) ∧
    (∀ e, tokenize a file = .error e → e.fault ≠ .unexpectedEndOfInput →
      tokenize (a ++ b) file' = .error e) ∧
    (Scanner.ofString a file).rest.emitted <+: (Scanner.ofString (a ++ b) file').rest.emitted ∧
    ∀ tokens, tokenize a file = .ok tokens → (Scanner.ofString a file).rest.emitted = tokens := by
  have short := Scanner.between_ofString a file
  have long := Scanner.between_ofString (a ++ b) file'
  rw [String.toList_append] at long
  have kept := itemsOf_mono ((short.reports_append long (a.length + 1)).trans
    ((Scanner.ofString (a ++ b) file').reports_mono (m := (a ++ b).length + 1) (by simp)))
  refine ⟨short.reports_append long, ?_, ?_, ?_⟩
  · intro e fails goesOn
    rw [tokenize, Run.tokens, Scanner.rest_items] at fails ⊢
    rw [itemsOf_takeWhile fails goesOn] at kept
    exact mapM_of_prefix kept fails
  · rw [Run.emitted, Run.emitted, Scanner.rest_items, Scanner.rest_items,
      ← filterMap_itemsOf_takeWhile]
    exact kept.filterMap _
  · exact fun tokens accepted => filterMap_of_mapM accepted

/-- The number that the source breaks off is read to its end once there is more, but the error
before it stays, and so do the tokens of a source that was accepted. -/
theorem appending_keeps_reports_behind_error :
    let word : Token := ⟨.identifier, "x"⟩
    let stray : ScanError := ⟨.malformedNumber (.unexpectedCharacter 'y'), ⟨2, 2⟩, "7"⟩
    tokenize "x\n7y 1." none = .error stray ∧ tokenize ("x\n7y 1." ++ "5 ") none = .error stray ∧
    (Scanner.ofString "x\n7y 1." none).reports 3 = [.token word, .failure stray,
      .failure ⟨.unexpectedEndOfInput, ⟨2, 6⟩, "1."⟩] ∧
    (Scanner.ofString ("x\n7y 1." ++ "5 ") none).reports 3 = [.token word, .failure stray,
      .token ⟨.number, "1.5"⟩] ∧
    tokenize "x\n" none = .ok [word] ∧
    [word] <+: (Scanner.ofString ("x\n" ++ "y") none).rest.emitted := by
  intro word stray
  have fails : tokenize "x\n7y 1." none = .error stray := by decide +kernel
  have accepted : tokenize "x\n" none = .ok [word] := by decide +kernel
  obtain ⟨-, stays, -, -⟩ := appending_keeps_reports "x\n7y 1." "5 " none none
  obtain ⟨-, -, kept, same⟩ := appending_keeps_reports "x\n" "y" none none
  exact ⟨fails, stays stray fails (by simp [stray]), by decide +kernel, by decide +kernel, accepted,
    same _ accepted ▸ kept⟩

end Lexical
