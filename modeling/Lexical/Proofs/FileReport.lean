import Lexical.CommandLine.Response
import Lexical.Proofs.LineByLine
import Lexical.Proofs.Progress
import Mathlib.Control.Monad.Basic

/-! What a run reports on a file, and what the library makes of the file.

The run reads the file itself and lists its tokens in a loop of its own, printing as it goes. Both
come to what the library does: it cannot open a file that the run cannot read, and the tokens and
the error are those of `tokenize`. There are no more tokens than characters, so the run can count
them (`Scanner.Finds.toInt_count`). -/
namespace Lexical

open Grammar
open Scanner (Between)

/-- The error that is reported, if it is one. -/
def Outcome.error? : Outcome → Option ScanError
  | failure e => some e
  | token _ | endOfSource => none

namespace Scanner

/-- Calls find `tokens` one after the other, and then report `last`, which is no token. -/
structure Finds (s : Scanner) (tokens : List Token) (last : Outcome) : Prop where
  reports : s.reports (tokens.length + 1) = tokens.map .token ++ [last]
  final : ∀ t, last ≠ .token t

variable {s : Scanner} {t : Token} {tokens : List Token} {last : Outcome} {e : ScanError}
  {read ahead : List Char}

theorem Finds.nil (h : s.Finds [] last) : s.nextToken.outcome = last :=
  (List.cons.inj h.reports).1

theorem Finds.cons (h : s.Finds (t :: tokens) last) :
    s.nextToken.outcome = .token t ∧ s.nextToken.scanner.Finds tokens last := by
  obtain ⟨now, later⟩ := List.cons.inj h.reports
  exact ⟨now, later, h.final⟩

theorem exists_finds (s : Scanner) : ∃ tokens last, s.Finds tokens last := by
  induction size : s.remaining using Nat.strongRecOn generalizing s with
  | ind n ih =>
    cases outcome : s.nextToken.outcome with
    | token t =>
      have less := remaining_nextToken_lt (s := s) (by simp [outcome])
      obtain ⟨tokens, last, found⟩ := ih _ (size ▸ less) _ rfl
      refine ⟨t :: tokens, last, ?_, found.final⟩
      rw [List.length_cons, reports_succ, outcome, found.reports]
      rfl
    | failure e => exact ⟨[], .failure e, by rw [← outcome]; rfl, by simp⟩
    | endOfSource => exact ⟨[], .endOfSource, by rw [← outcome]; rfl, by simp⟩

theorem Finds.drain_eq (h : s.Finds tokens last) :
    s.drain = match last.error? with
      | some e => .error e
      | none => .ok tokens := by
  induction tokens generalizing s with
  | nil =>
    have now := h.nil
    cases last with
    | token t => exact absurd rfl (h.final t)
    | failure e => exact drain_of_failure now
    | endOfSource => exact drain_of_endOfSource now
  | cons t tokens ih =>
    obtain ⟨now, later⟩ := h.cons
    rw [drain_of_token now, ih later]
    cases last.error? <;> rfl

/-- What a call finds in a text is a token of the grammar. -/
theorem Between.wellFormed (h : s.Between read ahead) (found : s.nextToken.outcome = .token t) :
    WellFormed t := by
  obtain ⟨gap, rest, split, blank, fits⟩ := h.exists_fits found
  exact fits.formed

theorem Finds.wellFormed (h : s.Finds tokens last) (between : s.Between read ahead) :
    ∀ t ∈ tokens, WellFormed t := by
  induction tokens generalizing s read ahead with
  | nil => simp
  | cons t tokens ih =>
    obtain ⟨now, later⟩ := h.cons
    obtain ⟨taken, rest, -, between'⟩ := between.nextToken_moves
    exact List.forall_mem_cons.mpr ⟨between.wellFormed now, ih later between'⟩

/-- Each token takes a character. -/
theorem Finds.length_le (h : s.Finds tokens last) (between : s.Between read ahead) :
    tokens.length ≤ s.remaining := by
  have items := between.items_reports_le (tokens.length + 1)
  rw [h.reports, List.filterMap_append, List.length_append] at items
  have all : (tokens.map Outcome.token).filterMap Outcome.item? = tokens.map .ok := by
    rw [List.filterMap_map]
    exact congrFun (List.filterMap_eq_map (f := Except.ok)) tokens
  rw [all, List.length_map] at items
  omega

end Scanner

/-- The line that lists a token, without its end. -/
def Token.line (t : Token) : String := t.kind.name ++ " (" ++ t.text ++ ")"

theorem Token.listing_eq (t : Token) : t.listing = t.line ++ "\n" := by
  have ends : ")\n" = ")" ++ "\n" := rfl
  rw [listing, line, ends, ← String.append_assoc]

/-- No token has a line feed in it. -/
theorem Token.clean_line {t : Token} (formed : WellFormed t) : '\n' ∉ t.line.toList := by
  have name : '\n' ∉ t.kind.name.toList := by cases t.kind <;> decide
  have text : '\n' ∉ t.text.toList := by
    intro feed
    have solid := formed.no_separator _ feed
    cases solid
  simp [line, name, text]

section Source

variable {source : String} {file : Option String} {tokens : List Token} {last : Outcome}

theorem Scanner.Finds.clean_lines (h : (ofString source file).Finds tokens last) :
    ∀ t ∈ tokens, '\n' ∉ t.line.toList :=
  fun t mem => t.clean_line (h.wellFormed (between_ofString source file) t mem)

theorem Scanner.Finds.length_le_length (h : (ofString source file).Finds tokens last) :
    tokens.length ≤ source.length := by
  have few := h.length_le (between_ofString source file)
  rwa [(between_ofString source file).remaining, String.length_toList] at few

/-- A signed word of 32 bits that has room for the number of characters has room for that of
tokens. -/
theorem Scanner.Finds.toInt_count (h : (ofString source file).Finds tokens last)
    (small : source.length ≤ Int32.maxValue.toInt) :
    (Int32.ofNat tokens.length).toInt = tokens.length := by
  have few := h.length_le_length
  have most : Int32.maxValue.toInt = 2147483647 := rfl
  exact Int32.toInt_ofNat_of_lt (by omega)

/-- The name of the source does not matter. -/
theorem Scanner.Finds.tokenize_eq (h : (ofString source file).Finds tokens last)
    (name : Option String) : tokenize source name = match last.error? with
      | some e => .error e
      | none => .ok tokens := by
  have renamed := rewrites_id.tokenize_eq source file name
  rw [id, String.ofList_toList] at renamed
  rw [renamed, tokenize_eq_drain, h.drain_eq]

end Source

namespace CommandLine

/-! ## The loop of a run -/

namespace Listing

variable {s : Scanner} {t : Token} {e : ScanError} {tokens : List Token} {last : Outcome}
  {before : Array Token} {events : Array Event} {source : String}

theorem after_of_token (h : s.nextToken.outcome = .token t) :
    after before events s =
      after (before.push t) (events ++ s.nextToken.events) s.nextToken.scanner := by
  rw [after]
  split <;> simp_all

theorem after_of_last (h : s.Finds [] last) : after before events s =
    ⟨before.toList, last.error?, (events ++ s.nextToken.events).toList⟩ := by
  have now := h.nil
  cases last with
  | token t => exact absurd rfl (h.final t)
  | failure e => rw [after]; split <;> simp_all [Outcome.error?]
  | endOfSource => rw [after]; split <;> simp_all [Outcome.error?]

/-- The loop lists what calls find, and the error behind it. -/
theorem after_of_finds (h : s.Finds tokens last) :
    (after before events s).tokens = before.toList ++ tokens ∧
      (after before events s).error = last.error? := by
  induction tokens generalizing s before events with
  | nil =>
    rw [after_of_last h]
    exact ⟨(List.append_nil _).symm, rfl⟩
  | cons t tokens ih =>
    obtain ⟨now, later⟩ := h.cons
    rw [after_of_token now]
    obtain ⟨found, error⟩ : (after (before.push t) (events ++ s.nextToken.events)
        s.nextToken.scanner).tokens = (before.push t).toList ++ tokens ∧ _ = _ := ih later
    refine ⟨?_, error⟩
    rw [found, Array.toList_push, List.append_assoc]
    rfl

theorem ofOpened_of_finds {file : Option String}
    (h : (Scanner.ofString source file).Finds tokens last) :
    (ofOpened (Scanner.openString source file)).tokens = tokens ∧
      (ofOpened (Scanner.openString source file)).error = last.error? :=
  after_of_finds h

end Listing

theorem join_listings (tokens : List Token) :
    String.join (tokens.map Token.listing) = String.join (tokens.map (·.line ++ "\n")) :=
  congrArg String.join (List.map_congr_left fun t _ => t.listing_eq)

variable {arguments : List String} {e : ScanError} {file source : String} {verbosity : Nat}

namespace Report

variable {l : Listing} {elapsed : Duration}

theorem ofListing_of_end (error : l.error = none) : ofListing file source elapsed l =
    ⟨.success, String.join (l.tokens.map (·.line ++ "\n")),
      l.events.map Event.record ++ [scanned l.tokens.length elapsed]⟩ := by
  rw [ofListing, error, ← join_listings]

theorem ofListing_of_excerpt {text : String} (error : l.error = some e)
    (excerpt : Excerpt.render e source file = .ok text) : ofListing file source elapsed l =
      ⟨.invalidSource, String.join (l.tokens.map (·.line ++ "\n")) ++ text,
        l.events.map Event.record⟩ := by
  simp only [ofListing, error, excerpt, join_listings]

theorem ofListing_of_widthFault {fault : Excerpt.WidthFault} (error : l.error = some e)
    (excerpt : Excerpt.render e source file = .error fault) : ofListing file source elapsed l =
      ⟨.aborted fault, String.join (l.tokens.map (·.line ++ "\n")),
        l.events.map Event.record⟩ := by
  simp only [ofListing, error, excerpt, join_listings]

theorem log_ofReadFault (file : String) (fault : ReadFault) (verbosity : Nat)
    (spec : Option String) :
    (ofReadFault file fault).log verbosity spec = Log.Filter.complaints (spec.getD "") ++
      if (logFilter verbosity spec).admits (unreadable file fault)
      then [(unreadable file fault).entry] else [] := by
  by_cases admitted : (logFilter verbosity spec).admits (unreadable file fault) <;>
    simp [log, ofReadFault, admitted]

end Report

theorem Response.ofArguments_of_scan
    (accepted : Request.ofArguments arguments = .ok (.scan file verbosity)) (spec : Option String)
    (elapsed : Duration) (read : String → Except ReadFault String) :
    ofArguments arguments spec elapsed read =
      let report := Report.ofContents file elapsed (read file)
      .report report (report.log verbosity spec) := by
  rw [ofArguments, accepted]

/-- **A run reports what the library finds.** A file that cannot be read cannot be opened either,
and the log is told of it in the words of the error. Of a file that can be read, the lines of the
tokens that calls find come first, whichever way they end. Where `tokenize` accepts the source, they
are all of the output, and the log is told their number, for which a signed word of 32 bits has room
if the source has fewer than 2^31 characters. Where it reports an error, its excerpt follows, unless
that cannot be made. -/
theorem report_agrees_with_library
    (accepted : Request.ofArguments arguments = .ok (.scan file verbosity)) (spec : Option String)
    (elapsed : Duration) (read : String → Except ReadFault String) :
    ∃ report log, Response.ofArguments arguments spec elapsed read = .report report log ∧
      (∀ fault, read file = .error fault →
        report.output = "" ∧ report.exit.code = 2 ∧
        ∃ e : SourceError, Scanner.openWith read file = .error e ∧
          let record : Log.Record := ⟨.error, "lexscan", e.message⟩
          report.records = [record] ∧
          log = Log.Filter.complaints (spec.getD "") ++
            if (logFilter verbosity spec).admits record then [record.entry] else []) ∧
      (∀ source, read file = .ok source → ∃ tokens last tail,
        (Scanner.ofString source (some file)).Finds tokens last ∧
        (∀ t ∈ tokens, '\n' ∉ t.line.toList) ∧
        report.output = String.join (tokens.map (·.line ++ "\n")) ++ tail ∧
        ∀ name, match tokenize source name with
          | .ok all => all = tokens ∧ last = .endOfSource ∧ tail = "" ∧ report.exit.code = 0 ∧
              report.records.getLast? = some ⟨.info, "lexscan",
                "scanned " ++ toString all.length ++ " tokens in " ++ elapsed.display⟩ ∧
              (source.length ≤ Int32.maxValue.toInt →
                (Int32.ofNat all.length).toInt = all.length)
          | .error e => last = .failure e ∧
              match Excerpt.render e source file with
              | .ok excerpt => tail = excerpt ∧ report.exit.code = 1
              | .error _ => tail = "" ∧ report.exit.code = 101) := by
  refine ⟨_, _, Response.ofArguments_of_scan accepted spec elapsed read, ?_, ?_⟩
  · intro fault unread
    rw [unread]
    refine ⟨rfl, rfl, ⟨file, fault⟩, by rw [Scanner.openWith, unread], rfl, ?_⟩
    exact Report.log_ofReadFault file fault verbosity spec
  · intro source contents
    obtain ⟨tokens, last, found⟩ := (Scanner.ofString source (some file)).exists_finds
    obtain ⟨listed, error⟩ := Listing.ofOpened_of_finds found
    rw [contents, Report.ofContents]
    cases last with
    | token t => exact absurd rfl (found.final t)
    | endOfSource =>
      rw [Report.ofListing_of_end error, listed]
      refine ⟨tokens, .endOfSource, "", found, found.clean_lines, (String.append_empty).symm, ?_⟩
      intro name
      rw [found.tokenize_eq name]
      exact ⟨rfl, rfl, rfl, rfl, List.getLast?_concat, found.toInt_count⟩
    | failure e =>
      cases excerpt : Excerpt.render e source file with
      | ok text =>
        rw [Report.ofListing_of_excerpt error excerpt, listed]
        refine ⟨tokens, .failure e, text, found, found.clean_lines, rfl, ?_⟩
        intro name
        rw [found.tokenize_eq name]
        exact ⟨rfl, by rw [excerpt]; exact ⟨rfl, rfl⟩⟩
      | error fault =>
        rw [Report.ofListing_of_widthFault error excerpt, listed]
        refine ⟨tokens, .failure e, "", found, found.clean_lines, (String.append_empty).symm, ?_⟩
        intro name
        rw [found.tokenize_eq name]
        exact ⟨rfl, by rw [excerpt]; exact ⟨rfl, rfl⟩⟩

/-- Of the three files one is accepted, one is rejected behind a word, and one is not there. -/
theorem report_agrees_with_library_behind_word :
    let read (path : String) : Except ReadFault String :=
      if path = "s" then .ok "a\n" else if path = "t" then .ok "a @\n" else .error .notFound
    Request.ofArguments ["s"] = .ok (.scan "s" 0) ∧
    Request.ofArguments ["-v", "t"] = .ok (.scan "t" 1) ∧
    Request.ofArguments ["u", "--verbose"] = .ok (.scan "u" 1) ∧
    (∃ report log, Response.ofArguments ["s"] none ⟨12345⟩ read = .report report log ∧
      report.output = "Identifier (a)\n" ∧ report.exit.code = 0 ∧
      report.records.getLast? = some ⟨.info, "lexscan", "scanned 1 tokens in 12.345µs"⟩) ∧
    (∃ report log tokens, Response.ofArguments ["-v", "t"] none ⟨12345⟩ read = .report report log ∧
      (Scanner.ofString "a @\n" (some "t")).Finds tokens
        (.failure ⟨.invalidCharacter '@', ⟨1, 3⟩, ""⟩) ∧
      report.output = String.join (tokens.map (·.line ++ "\n")) ++
        "Error: InvalidCharacter\n-> t\n  |\n1 | a @\n  | --^\n" ∧ report.exit.code = 1) ∧
    ∃ report, Response.ofArguments ["u", "--verbose"] (some "off/x") ⟨12345⟩ read =
        .report report [] ∧ report.output = "" ∧ report.exit.code = 2 ∧
      report.records = [⟨.error, "lexscan",
        "failed to read source \"u\": No such file or directory (os error 2)"⟩] := by
  intro read
  have first : Request.ofArguments ["s"] = .ok (.scan "s" 0) := by decide +kernel
  have second : Request.ofArguments ["-v", "t"] = .ok (.scan "t" 1) := by decide +kernel
  have third : Request.ofArguments ["u", "--verbose"] = .ok (.scan "u" 1) := by decide +kernel
  refine ⟨first, second, third, ?_, ?_, ?_⟩
  · obtain ⟨report, log, response, -, readable⟩ :=
      report_agrees_with_library first none ⟨12345⟩ read
    obtain ⟨tokens, last, tail, -, -, output, agrees⟩ := readable "a\n" rfl
    have accepted : tokenize "a\n" none = .ok [⟨.identifier, "a"⟩] := by decide +kernel
    have agrees := agrees none
    rw [accepted] at agrees
    obtain ⟨rfl, -, rfl, code, count, -⟩ := agrees
    exact ⟨report, log, response, output, code, count⟩
  · obtain ⟨report, log, response, -, readable⟩ :=
      report_agrees_with_library second none ⟨12345⟩ read
    obtain ⟨tokens, last, tail, found, -, output, agrees⟩ := readable "a @\n" rfl
    have rejected : tokenize "a @\n" none =
        .error ⟨.invalidCharacter '@', ⟨1, 3⟩, ""⟩ := by decide +kernel
    have excerpt : Excerpt.render ⟨.invalidCharacter '@', ⟨1, 3⟩, ""⟩ "a @\n" "t" =
        .ok "Error: InvalidCharacter\n-> t\n  |\n1 | a @\n  | --^\n" := by decide +kernel
    have agrees := agrees none
    rw [rejected] at agrees
    obtain ⟨rfl, shown⟩ := agrees
    rw [excerpt] at shown
    obtain ⟨rfl, code⟩ := shown
    exact ⟨report, log, tokens, response, found, output, code⟩
  · obtain ⟨report, log, response, unreadable, -⟩ :=
      report_agrees_with_library third (some "off/x") ⟨12345⟩ read
    obtain ⟨output, code, e, unopened, records, shown⟩ := unreadable .notFound rfl
    cases unopened
    have hidden : log = [] := by
      rw [shown]
      decide +kernel
    exact ⟨report, hidden ▸ response, output, code, records⟩

end CommandLine

end Lexical
