import Lexical.Proofs.CharClass
import Lexical.Proofs.Session
import Mathlib.Control.Monad.Basic

/-! Characters renamed within their classes.

The scanner looks at a character through its class, and through whether it ends a line. A renaming
that keeps both takes every state of a scanner to a state, and every request takes renamed states to
renamed states.

* `KeepsClasses`: what a renaming has to keep;
* `Move.ofMode_rename`: the automaton calls for the same move, with the character renamed in it;
* `Turn.step_rename`, `Turn.run_rename`: so a turn and a call do the same;
* `Scanner.showings_rename`: and so does any run of requests. -/
namespace Lexical

/-- The function takes no character to one of another class, and line ends to themselves and nothing
else to them. Two characters may get one name. -/
structure KeepsClasses (f : Char → Char) : Prop where
  ofChar_eq : ∀ c, CharClass.ofChar (f c) = CharClass.ofChar c
  lineFeed : ∀ c, f c = '\n' ↔ c = '\n'
  carriageReturn : ∀ c, f c = '\r' ↔ c = '\r'

/-! ## What is renamed -/

/-- The text with every character renamed. -/
def renamed (f : Char → Char) (text : String) : String := String.ofList (text.toList.map f)

/-- The kind of a token that got the name `text`: only for words does it depend on the text. -/
def TokenKind.decidedAnew (kind : TokenKind) (text : String) : TokenKind :=
  match kind with
  | .identifier | .reserved => .ofWord text
  | kind => kind

def Token.rename (f : Char → Char) (t : Token) : Token :=
  ⟨t.kind.decidedAnew (renamed f t.text), renamed f t.text⟩

def NumberFault.rename (f : Char → Char) : NumberFault → NumberFault
  | .unexpectedCharacter found => .unexpectedCharacter (f found)
  | reason => reason

def Fault.rename (f : Char → Char) : Fault → Fault
  | .invalidCharacter found => .invalidCharacter (f found)
  | .malformedIdentifier found => .malformedIdentifier (f found)
  | .malformedNumber reason => .malformedNumber (reason.rename f)
  | .unexpectedEndOfInput => .unexpectedEndOfInput

/-- The position stays. -/
def ScanError.rename (f : Char → Char) (e : ScanError) : ScanError :=
  ⟨e.fault.rename f, e.position, renamed f e.lexeme⟩

def Outcome.rename (f : Char → Char) : Outcome → Outcome
  | .token t => .token (t.rename f)
  | .failure e => .failure (e.rename f)
  | .endOfSource => .endOfSource

def Placed.rename (f : Char → Char) (p : Placed) : Placed := ⟨f p.char, p.position⟩

def Event.rename (f : Char → Char) : Event → Event
  | .putBack p => .putBack (p.rename f)
  | .found position t => .found position (t.rename f)
  | .failed file e => .failed file (e.rename f)
  | event => event

def Lexeme.rename (f : Char → Char) (l : Lexeme) : Lexeme := ⟨renamed f l.text, l.points⟩

def Scanner.rename (f : Char → Char) (s : Scanner) : Scanner :=
  { s with source := s.source.map f, pending := s.pending.map (Placed.rename f) }

/-- The sequel, where `text` is the lexeme that it is about. -/
def Sequel.rename (f : Char → Char) (text : String) : Sequel → Sequel
  | .goOn mode => .goOn mode
  | .emit kind => .emit (kind.decidedAnew (renamed f text))
  | .fail fault => .fail (fault.rename f)

def Move.rename (f : Char → Char) (text : String) (m : Move) : Move :=
  ⟨m.use, m.sequel.rename f text⟩

def Turn.rename (f : Char → Char) (t : Turn) : Turn :=
  ⟨t.scanner.rename f, t.mode, t.lexeme.rename f, t.events.map (Event.rename f)⟩

def Call.rename (f : Char → Char) (call : Call) : Call :=
  ⟨call.outcome.rename f, call.scanner.rename f, call.events.map (Event.rename f)⟩

def Step.rename (f : Char → Char) : Step → Step
  | .again t => .again (t.rename f)
  | .done call => .done (call.rename f)

variable {f : Char → Char}

theorem renamed_push (text : String) (c : Char) :
    renamed f (text.push c) = (renamed f text).push (f c) := by
  apply String.toList_injective
  simp [renamed]

theorem TokenKind.decidedAnew_ofWord (word text : String) :
    (ofWord word).decidedAnew text = ofWord text := by
  cases reserved : isReserved word <;> simp [ofWord, reserved, decidedAnew]

/-! ## Tests of characters -/

namespace KeepsClasses

variable {k : CharClass}

theorem test_eq (h : KeepsClasses f) (hk : k ≠ .relOperator) (c : Char) :
    k.test (f c) = k.test c := by
  apply Bool.eq_iff_iff.mpr
  constructor
  · intro passes
    have same := (h.ofChar_eq c).symm.trans (CharClass.ofChar_of_test passes hk)
    exact same ▸ CharClass.test_ofChar c
  · intro passes
    have same := (h.ofChar_eq c).trans (CharClass.ofChar_of_test passes hk)
    exact same ▸ CharClass.test_ofChar (f c)

theorem isLetter_eq (h : KeepsClasses f) (c : Char) : isLetter (f c) = isLetter c :=
  h.test_eq (k := .letter) (by simp) c

theorem isDigit_eq (h : KeepsClasses f) (c : Char) : isDigit (f c) = isDigit c :=
  h.test_eq (k := .digit) (by simp) c

theorem isPoint_eq (h : KeepsClasses f) (c : Char) : isPoint (f c) = isPoint c :=
  h.test_eq (k := .point) (by simp) c

theorem isAssignment_eq (h : KeepsClasses f) (c : Char) : isAssignment (f c) = isAssignment c :=
  h.test_eq (k := .assignment) (by simp) c

theorem isInvalid_eq (h : KeepsClasses f) (c : Char) : isInvalid (f c) = isInvalid c :=
  h.test_eq (k := .invalid) (by simp) c

theorem isWordPart_eq (h : KeepsClasses f) (c : Char) : isWordPart (f c) = isWordPart c := by
  have underscore : isUnderscore (f c) = isUnderscore c :=
    h.test_eq (k := .underscore) (by simp) c
  rw [isWordPart, isWordPart, h.isLetter_eq, h.isDigit_eq, underscore]

theorem isEndOfLine_eq (h : KeepsClasses f) (c : Char) : isEndOfLine (f c) = isEndOfLine c := by
  apply Bool.eq_iff_iff.mpr
  simp only [isEndOfLine, Bool.or_eq_true, beq_iff_eq]
  rw [h.lineFeed, h.carriageReturn]

theorem next_eq (h : KeepsClasses f) (p : Position) (c : Char) : p.next (f c) = p.next c := by
  simp only [Position.next, h.lineFeed]

end KeepsClasses

/-! ## One turn -/

theorem Lexeme.push_rename (h : KeepsClasses f) (l : Lexeme) (c : Char) :
    (l.rename f).push (f c) = (l.push c).rename f := by
  simp only [push, rename, renamed_push, h.isPoint_eq]

theorem Lexeme.endsInPoint_rename (h : KeepsClasses f) (l : Lexeme) :
    (l.rename f).endsInPoint = l.endsInPoint := by
  have point (c : Char) : (f c == '.') = (c == '.') := h.isPoint_eq c
  simp only [endsInPoint, rename, renamed, String.toList_ofList, List.getLast?_map]
  cases l.text.toList.getLast? with
  | none => rfl
  | some c => exact point c

/-- The lexeme behind a move. -/
def Move.lexeme (m : Move) (l : Lexeme) (c : Char) : Lexeme :=
  match m.use with
  | .keep => l.push c
  | .skip | .putBack => l

/-- The automaton calls for the same move. What it emits of a word depends on the word; that of any
other token, on the classes of its characters. -/
theorem Move.ofMode_rename (h : KeepsClasses f) (l : Lexeme) (c : Char) (mode : Mode) :
    ofMode (l.rename f) (f c) mode =
      (ofMode l c mode).rename f ((ofMode l c mode).lexeme l c).text := by
  cases mode with
  | start =>
    simp only [ofMode, start, h.ofChar_eq]
    cases CharClass.ofChar c <;> rfl
  | comment =>
    simp only [ofMode, comment, h.isEndOfLine_eq]
    split <;> rfl
  | word =>
    simp only [ofMode, word, h.isWordPart_eq, h.isInvalid_eq]
    split
    · rfl
    · split
      · rfl
      · simp only [rename, lexeme, Sequel.rename, TokenKind.decidedAnew_ofWord]
        rfl
  | equals =>
    simp only [ofMode, equals, h.isAssignment_eq]
    split <;> rfl
  | comparison =>
    simp only [ofMode, comparison, h.isAssignment_eq]
    split <;> rfl
  | integer =>
    simp only [ofMode, integer, h.isDigit_eq, h.isPoint_eq, h.isLetter_eq, h.isInvalid_eq]
    split
    · rfl
    · split
      · rfl
      · split <;> rfl
  | fraction =>
    simp only [ofMode, fraction, h.isDigit_eq, h.isPoint_eq, Lexeme.endsInPoint_rename h]
    change (if isDigit c then _ else if isPoint c then
      if l.points + 1 > maxPoints then _ else _ else _) = _
    split
    · rfl
    · split
      · split <;> rfl
      · split <;> rfl

namespace Scanner

theorem position_rename (s : Scanner) : (s.rename f).position = s.position := by
  obtain ⟨source, cursor, place, pending, file, finished⟩ := s
  cases pending <;> rfl

theorem atEnd_rename (s : Scanner) : (s.rename f).atEnd = s.atEnd := by
  simp [atEnd, rename]

theorem advance_rename (h : KeepsClasses f) (s : Scanner) :
    (s.rename f).advance = s.advance.map (Prod.map (Placed.rename f) (rename f)) := by
  obtain ⟨source, cursor, place, pending, file, finished⟩ := s
  cases pending with
  | some p => rfl
  | none =>
    simp only [advance, rename, Option.map_none, Array.getElem?_map, Option.map_map]
    congr 1
    funext c
    simp [Placed.rename, h.next_eq, rename]

theorem ofString_rename (source : String) (file : Option String) :
    ofString (renamed f source) file = (ofString source file).rename f := by
  simp [ofString, rename, renamed]

end Scanner

namespace Turn

theorem use_rename (h : KeepsClasses f) (t : Turn) (p : Placed) (u : Use) :
    (t.rename f).use (p.rename f) u = (t.use p u).rename f := by
  cases u with
  | skip => rfl
  | keep => simp only [use, rename, Placed.rename, Lexeme.push_rename h]
  | putBack => simp [use, rename, Scanner.unread, Scanner.rename, Event.rename]

theorem lexeme_use (t : Turn) (p : Placed) (m : Move) :
    (t.use p m.use).lexeme = m.lexeme t.lexeme p.char := by
  unfold Move.lexeme
  cases m.use <;> rfl

theorem emit_rename (t : Turn) (kind : TokenKind) (position : Position) :
    (t.rename f).emit (kind.decidedAnew (renamed f t.lexeme.text)) position =
      (t.emit kind position).rename f := by
  simp [emit, rename, Call.rename, Outcome.rename, Token.rename, Event.rename, Lexeme.rename]

theorem fail_rename (t : Turn) (fault : Fault) (position : Position) :
    (t.rename f).fail (fault.rename f) position = (t.fail fault position).rename f := by
  simp [fail, rename, Call.rename, Outcome.rename, ScanError.rename, Event.rename, Lexeme.rename,
    Scanner.rename, Scanner.finish]

theorem sourceEnded_rename (t : Turn) :
    (t.rename f).sourceEnded = t.sourceEnded.rename f := by
  have position : (t.rename f).scanner.position = t.scanner.position :=
    Scanner.position_rename t.scanner
  unfold sourceEnded
  rw [position]
  change (if t.mode.isTrivia then _ else _) = _
  split
  · rfl
  · exact fail_rename t .unexpectedEndOfInput t.scanner.position

theorem move_rename (h : KeepsClasses f) (t : Turn) (p : Placed) (m : Move) :
    (t.rename f).move (p.rename f) (m.rename f (m.lexeme t.lexeme p.char).text) =
      (t.move p m).rename f := by
  have used := t.use_rename h p m.use
  rw [← lexeme_use]
  obtain ⟨u, sequel⟩ := m
  simp only at used
  cases sequel with
  | goOn mode =>
    simp only [move, Move.rename, Sequel.rename, used]
    rfl
  | emit kind =>
    simp only [move, Move.rename, Sequel.rename, used, Step.rename]
    exact congrArg Step.done (emit_rename ..)
  | fail fault =>
    simp only [move, Move.rename, Sequel.rename, used, Step.rename]
    exact congrArg Step.done (fail_rename ..)

theorem step_rename (h : KeepsClasses f) (t : Turn) : (t.rename f).step = t.step.rename f := by
  have reads : (t.rename f).scanner.advance = _ := t.scanner.advance_rename h
  unfold step
  rw [reads]
  cases t.scanner.advance with
  | none => exact congrArg Step.done (sourceEnded_rename t)
  | some read =>
    obtain ⟨p, s⟩ := read
    have moved := move_rename h { t with scanner := s } p (.ofMode t.lexeme p.char t.mode)
    simp only [← Move.ofMode_rename h] at moved
    exact moved

/-! ## Calls and requests -/

theorem run_rename (h : KeepsClasses f) (t : Turn) : (t.rename f).run = t.run.rename f := by
  fun_induction run t with
  | case1 t u again ih =>
    have again' := step_rename h t
    rw [again] at again'
    rw [run_of_again again', ih]
  | case2 t call done =>
    have done' := step_rename h t
    rw [done] at done'
    exact run_of_done done'

end Turn

theorem Scanner.nextToken_rename (h : KeepsClasses f) (s : Scanner) :
    (s.rename f).nextToken = s.nextToken.rename f := Turn.run_rename h (.begin s)

/-- What a request may ask for. -/
inductive Scanner.Request
  | nextToken
  | next
  deriving DecidableEq, Repr

def Item.rename (f : Char → Char) : Item → Item
  | .ok t => .ok (t.rename f)
  | .error e => .error (e.rename f)

deriving instance DecidableEq for Answer

def Answer.rename (f : Char → Char) : Answer → Answer
  | .report outcome => .report (outcome.rename f)
  | .draw item => .draw (item.map (Item.rename f))

theorem Outcome.item?_rename (outcome : Outcome) :
    (outcome.rename f).item? = outcome.item?.map (Item.rename f) := by
  cases outcome <;> rfl

/-- What a request is answered, and what the scanner shows behind it. -/
structure Showing where
  answer : Answer
  position : Position
  atEnd : Bool
  deriving DecidableEq

def Showing.rename (f : Char → Char) (showing : Showing) : Showing :=
  { showing with answer := showing.answer.rename f }

namespace Scanner

/-- The answer to a request, and the scanner behind it. -/
def serve (s : Scanner) : Request → Answer × Scanner
  | .nextToken => (.report s.nextToken.outcome, s.nextToken.scanner)
  | .next => (.draw s.next.item, s.next.scanner)

/-- What a run of requests shows, request by request, errors and ends among the answers. -/
def showings : List Request → Scanner → List Showing
  | [], _ => []
  | request :: requests, s =>
    let (answer, t) := s.serve request
    ⟨answer, t.position, t.atEnd⟩ :: showings requests t

theorem serve_rename (h : KeepsClasses f) (s : Scanner) (request : Request) :
    (s.rename f).serve request = (s.serve request).map (Answer.rename f) (rename f) := by
  cases request with
  | nextToken =>
    simp only [serve, nextToken_rename h]
    rfl
  | next =>
    cases done : s.finished with
    | true =>
      have done' : (s.rename f).finished = true := done
      simp only [serve, next_of_finished done, next_of_finished done']
      rfl
    | false =>
      have done' : (s.rename f).finished = false := done
      simp only [serve, next_of_open done, next_of_open done', nextToken_rename h, Prod.map,
        Call.rename, Outcome.item?_rename, Answer.rename]

/-- Request by request, renamed states show the same. -/
theorem showings_rename (h : KeepsClasses f) (requests : List Request) (s : Scanner) :
    (s.rename f).showings requests = (s.showings requests).map (Showing.rename f) := by
  induction requests generalizing s with
  | nil => rfl
  | cons request requests ih =>
    rw [showings, serve_rename h]
    simp only [Prod.map]
    rw [ih, position_rename, atEnd_rename]
    rfl

end Scanner

/-- **Only classes steer the scanner.** A renaming that keeps the classes and the line ends changes
no answer but for the names in it: tokens and errors come request by request as they did, errors
with the same reason at the same position, and the scanner shows the same position, and the end at
the same time. Of a token only the kind of a word is decided anew, by whether the renamed word is
reserved. -/
theorem classes_steer_scanner (h : KeepsClasses f) (source : String) (file : Option String)
    (requests : List Scanner.Request) :
    (Scanner.ofString (renamed f source) file).showings requests =
      ((Scanner.ofString source file).showings requests).map (Showing.rename f) := by
  rw [Scanner.ofString_rename]
  exact Scanner.showings_rename h requests _

/-- The renamed word is reserved, and the error behind it closes the stream as before. -/
theorem classes_steer_scanner_behind_word :
    let f (c : Char) : Char := if c = 'b' then 'f' else if c = 'é' then '?' else c
    let error (found : Char) : Outcome := .failure ⟨.invalidCharacter found, ⟨1, 4⟩, ""⟩
    KeepsClasses f ∧ renamed f "ib é" = "if ?" ∧
    (Scanner.ofString "ib é" none).showings [.next, .nextToken, .next] =
      [⟨.draw (some (.ok ⟨.identifier, "ib"⟩)), ⟨1, 3⟩, false⟩, ⟨.report (error 'é'), ⟨1, 5⟩, true⟩,
        ⟨.draw none, ⟨1, 5⟩, true⟩] ∧
    (Scanner.ofString (renamed f "ib é") none).showings [.next, .nextToken, .next] =
      [⟨.draw (some (.ok ⟨.reserved, "if"⟩)), ⟨1, 3⟩, false⟩, ⟨.report (error '?'), ⟨1, 5⟩, true⟩,
        ⟨.draw none, ⟨1, 5⟩, true⟩] := by
  intro f error
  have keeps : KeepsClasses f := by
    constructor
    · intro c
      by_cases b : c = 'b'
      · subst b
        rfl
      · by_cases e : c = 'é'
        · subst e
          decide
        · simp only [f, if_neg b, if_neg e]
    all_goals
      intro c
      simp only [f]
      grind
  have shown : (Scanner.ofString "ib é" none).showings [.next, .nextToken, .next] =
      [⟨.draw (some (.ok ⟨.identifier, "ib"⟩)), ⟨1, 3⟩, false⟩, ⟨.report (error 'é'), ⟨1, 5⟩, true⟩,
        ⟨.draw none, ⟨1, 5⟩, true⟩] := by
    decide +kernel
  have steered := classes_steer_scanner keeps "ib é" none [.next, .nextToken, .next]
  rw [shown] at steered
  refine ⟨keeps, by decide +kernel, shown, steered.trans ?_⟩
  decide +kernel

end Lexical
