import Lexical.Proofs.Directives
import Lexical.Proofs.FileReport
import Mathlib.Algebra.GroupWithZero.Nat
import Mathlib.Data.List.Forall2

/-! What the log shows of a run, and what it has no influence on. -/
namespace Lexical.CommandLine

variable {arguments arguments' : List String} {file : String} {verbosity verbosity' : Nat}
  {r r' : Reading}

/-! ## How often arguments ask for more -/

/-- How often one argument asks for more: by its name, or once for each `v` behind a single dash. -/
def asks (argument : String) : Nat :=
  if argument = "--verbose" then 1
  else match argument.toList with
    | '-' :: '-' :: _ => 0
    | '-' :: letters => letters.count 'v'
    | _ => 0

/-- How often the arguments ask for more. Behind two dashes alone there are only files. -/
def verboseFlags (arguments : List String) : Nat :=
  ((arguments.takeWhile (· ≠ "--")).map asks).sum

example : verboseFlags ["-vv", "--verbose", "--", "-v"] = 3 := by decide +kernel

theorem verboseFlags_cons {argument : String} (h : argument.toList ≠ ['-', '-']) :
    verboseFlags (argument :: arguments) = asks argument + verboseFlags arguments := by
  have other : argument ≠ "--" := by
    rintro rfl
    exact h rfl
  simp [verboseFlags, other]

theorem asks_letters {argument : String} {c : Char} {cs : List Char}
    (letters : argument.toList = '-' :: c :: cs) (single : c ≠ '-') :
    asks argument = (c :: cs).count 'v' := by
  have other : argument ≠ "--verbose" := by
    rintro rfl
    cases letters
    exact single rfl
  rw [asks, if_neg other, letters]
  split <;> simp_all

theorem asks_file {argument : String} (file : ∀ c cs, argument.toList ≠ '-' :: c :: cs) :
    asks argument = 0 := by
  have other : argument ≠ "--verbose" := by
    rintro rfl
    exact file _ _ rfl
  rw [asks, if_neg other]
  split
  · rfl
  next letters _ dash =>
    cases letters with
    | nil => rfl
    | cons c cs => exact absurd dash (file c cs)
  · rfl

namespace Reading

theorem verbosity_setFile {argument : String} (h : r.setFile argument = .ok r') :
    r'.verbosity = r.verbosity := by
  rw [setFile] at h
  split at h
  · cases h
  · split at h
    · cases h
    · cases h
      rfl

theorem verbosity_finish (h : r.finish = .ok (.scan file verbosity)) :
    verbosity = r.verbosity := by
  rw [finish] at h
  split at h
  · cases h
    rfl
  · cases h

theorem verbosity_letters {cs : List Char} (h : r.letters cs = .ok (some r')) :
    r'.verbosity = r.verbosity + cs.count 'v' := by
  fun_induction letters r cs with
  | case1 r =>
    cases h
    simp
  | case2 r cs ih =>
    rw [ih h, List.count_cons_self]
    simp only
    omega
  | case3 | case4 => cases h

theorem verbosity_files (h : r.files arguments = .ok (.scan file verbosity)) :
    verbosity = r.verbosity := by
  fun_induction files r arguments with
  | case1 r => exact verbosity_finish h
  | case2 => cases h
  | case3 r argument rest r' set ih => rw [ih h, verbosity_setFile set]

theorem verbosity_arguments (h : r.arguments arguments = .ok (.scan file verbosity)) :
    verbosity = r.verbosity + verboseFlags arguments := by
  fun_induction Reading.arguments r arguments with
  | case1 r => simpa [verboseFlags] using verbosity_finish h
  | case2 r argument rest dashes =>
    obtain rfl : argument = "--" := String.toList_injective dashes
    simpa [verboseFlags] using verbosity_files h
  | case3 r argument rest _ name ih =>
    obtain rfl : argument = "--verbose" := String.toList_injective name
    have asked : asks "--verbose" = 1 := rfl
    rw [ih h, verboseFlags_cons (by decide), asked]
    simp only
    omega
  | case8 r argument rest c cs _ single letters r' read ih =>
    have other : argument.toList ≠ ['-', '-'] := by
      rw [letters]
      rintro ⟨⟩
      exact single rfl
    rw [verboseFlags_cons other, asks_letters letters single, ih h, verbosity_letters read,
      Nat.add_assoc]
  | case10 r argument rest r' set dashes _ file ih =>
    rw [verboseFlags_cons dashes, asks_file file, ih h, verbosity_setFile set, Nat.zero_add]
  | case4 | case5 | case6 | case7 | case9 => cases h

end Reading

theorem verbosity_eq_verboseFlags
    (h : Request.ofArguments arguments = .ok (.scan file verbosity)) :
    verbosity = verboseFlags arguments := by
  simpa using Reading.verbosity_arguments h

/-! ## What the log shows -/

theorem rank_threshold_le (le : verbosity ≤ verbosity') :
    (threshold verbosity).rank ≤ (threshold verbosity').rank := by
  match verbosity, verbosity' with
  | 0, 0 | 0, 1 | 0, _ + 2 | 1, 1 | 1, _ + 2 | _ + 2, _ + 2 =>
    simp [threshold, Log.Threshold.rank, Log.Level.rank]
  | 1, 0 | _ + 2, 0 | _ + 2, 1 => omega

/-- Of some records those that the log shows after so many requests to say more. -/
def shown (flags : Nat) (spec : Option String) (records : List Log.Record) : List Log.Record :=
  records.filter fun r => Log.Passes (threshold flags) (spec.getD "") r

theorem Report.log_eq (report : Report) (spec : Option String) : report.log verbosity spec =
    Log.Filter.complaints (spec.getD "") ++
      (shown verbosity spec report.records).map Log.Record.entry := by
  have passes (r : Log.Record) : (logFilter verbosity spec).admits r =
      decide (Log.Passes (threshold verbosity) (spec.getD "") r) := by
    apply Bool.eq_iff_iff.mpr
    rw [decide_eq_true_iff]
    exact Log.Filter.admits_ofSpec
  rw [log, shown, List.filter_congr fun r _ => passes r]

theorem shown_sublist (le : verbosity ≤ verbosity') (spec : Option String)
    (records : List Log.Record) :
    (shown verbosity spec records).Sublist (shown verbosity' spec records) := by
  apply List.monotone_filter_right
  intro r passes
  rw [decide_eq_true_iff] at passes ⊢
  exact passes.mono (rank_threshold_le le)

/-! ## Two runs on one file -/

/-- The records are the same, or both give the number of the tokens at the end of a scan, which took
these times. -/
inductive SameButTime (elapsed elapsed' : Duration) : Log.Record → Log.Record → Prop
  | same (r : Log.Record) : SameButTime elapsed elapsed' r r
  | scanned (count : Nat) :
    SameButTime elapsed elapsed' (scanned count elapsed) (scanned count elapsed')

variable {elapsed elapsed' : Duration} {records records' : List Log.Record}

theorem sameButTime_self (records : List Log.Record) :
    List.Forall₂ (SameButTime elapsed elapsed') records records :=
  List.forall₂_same.mpr fun r _ => .same r

/-- The time that a scan took shows in the last record only. -/
theorem Report.ofContents_elapsed (file : String) (contents : Except ReadFault String)
    (elapsed elapsed' : Duration) :
    (ofContents file elapsed contents).exit = (ofContents file elapsed' contents).exit ∧
    (ofContents file elapsed contents).output = (ofContents file elapsed' contents).output ∧
    List.Forall₂ (SameButTime elapsed elapsed') (ofContents file elapsed contents).records
      (ofContents file elapsed' contents).records := by
  cases contents with
  | error fault => exact ⟨rfl, rfl, sameButTime_self _⟩
  | ok source =>
    simp only [ofContents]
    generalize Listing.ofOpened (Scanner.openString source (some file)) = l
    cases error : l.error with
    | none =>
      simp only [ofListing_of_end error, true_and]
      exact List.rel_append (sameButTime_self _) (.cons (.scanned _) .nil)
    | some e =>
      cases excerpt : Excerpt.render e source file with
      | ok text =>
        simp only [ofListing_of_excerpt error excerpt, true_and]
        exact sameButTime_self _
      | error fault =>
        simp only [ofListing_of_widthFault error excerpt, true_and]
        exact sameButTime_self _

/-- Of records that are the same but for the time the log shows the same ones, if a pattern does not
tell the times apart. -/
theorem shown_sameButTime {spec : Option String}
    (alike : List.Forall₂ (SameButTime elapsed elapsed') records records')
    (blind : ∀ pattern ∈ (Log.Filter.own (spec.getD "")).pattern, ∀ count,
      scanned count elapsed ∈ records →
        pattern.occursIn (scanned count elapsed).message =
          pattern.occursIn (scanned count elapsed').message) :
    List.Forall₂ (SameButTime elapsed elapsed') (shown verbosity spec records)
      (shown verbosity spec records') := by
  have among : List.Forall₂ (fun r r' => r ∈ records ∧ SameButTime elapsed elapsed' r r') records
      records' := (List.forall₂_and_left ..).mpr ⟨fun _ => id, alike⟩
  have kept := List.rel_filter (p := fun r => Log.Passes (threshold verbosity) (spec.getD "") r)
    (q := fun r => Log.Passes (threshold verbosity) (spec.getD "") r) ?_ among
  · exact kept.imp fun _ _ => And.right
  rintro r r' ⟨mem, same | count⟩
  · exact Iff.rfl
  · simp only [decide_eq_true_iff]
    exact Log.passes_congr rfl rfl fun pattern given => blind pattern given count mem

/-- **Logging leaves results alone, and more verbosity only adds to the log.** Two runs on one file
end alike and print the same, whatever they log and however long they take. Each logs, behind the
complaints about the filter, those of its records that pass it by their levels and targets, and by
their messages if the filter holds a pattern. What is logged at a lower verbosity is logged at a
higher one, too, in the same order and but for the time in the same words, unless a pattern tells
the times apart. -/
theorem logging_leaves_results_alone
    (accepted : Request.ofArguments arguments = .ok (.scan file verbosity))
    (accepted' : Request.ofArguments arguments' = .ok (.scan file verbosity'))
    (read : String → Except ReadFault String) :
    (∀ spec spec' elapsed elapsed',
      (Response.ofArguments arguments spec elapsed read).code =
        (Response.ofArguments arguments' spec' elapsed' read).code ∧
      (Response.ofArguments arguments spec elapsed read).output =
        (Response.ofArguments arguments' spec' elapsed' read).output) ∧
    (∀ spec elapsed elapsed', ∃ report report',
      let logged := shown (verboseFlags arguments) spec report.records
      let logged' := shown (verboseFlags arguments') spec report'.records
      Response.ofArguments arguments spec elapsed read = .report report
        (Log.Filter.complaints (spec.getD "") ++ logged.map Log.Record.entry) ∧
      Response.ofArguments arguments' spec elapsed' read = .report report'
        (Log.Filter.complaints (spec.getD "") ++ logged'.map Log.Record.entry) ∧
      List.Forall₂ (SameButTime elapsed elapsed') report.records report'.records ∧
      (verboseFlags arguments ≤ verboseFlags arguments' →
        (∀ pattern ∈ (Log.Filter.own (spec.getD "")).pattern, ∀ count,
          scanned count elapsed ∈ report.records →
            pattern.occursIn (scanned count elapsed).message =
              pattern.occursIn (scanned count elapsed').message) →
        ∃ part, part.Sublist logged' ∧
          List.Forall₂ (SameButTime elapsed elapsed') logged part)) := by
  constructor
  · intro spec spec' elapsed elapsed'
    obtain ⟨exit, output, -⟩ := Report.ofContents_elapsed file (read file) elapsed elapsed'
    rw [Response.ofArguments_of_scan accepted, Response.ofArguments_of_scan accepted']
    exact ⟨congrArg Exit.code exit, output⟩
  · intro spec elapsed elapsed'
    obtain ⟨-, -, alike⟩ := Report.ofContents_elapsed file (read file) elapsed elapsed'
    refine ⟨.ofContents file elapsed (read file), .ofContents file elapsed' (read file), ?_⟩
    rw [Response.ofArguments_of_scan accepted, Response.ofArguments_of_scan accepted',
      ← verbosity_eq_verboseFlags accepted, ← verbosity_eq_verboseFlags accepted']
    refine ⟨?_, ?_, alike, ?_⟩
    · simp only [Report.log_eq]
    · simp only [Report.log_eq]
    · intro le blind
      exact ⟨_, shown_sublist le spec _, shown_sameButTime alike blind⟩

/-- The source has an error behind its word, so the run does not come to tell its time. -/
theorem logging_leaves_results_alone_behind_word :
    let read (_ : String) : Except ReadFault String := .ok "a @"
    Request.ofArguments ["-v", "s"] = .ok (.scan "s" 1) ∧
    Request.ofArguments ["s", "-v", "--verbose"] = .ok (.scan "s" 2) ∧
    (Response.ofArguments ["-v", "s"] none ⟨12345⟩ read).output =
      (Response.ofArguments ["s", "-v", "--verbose"] (some "off") ⟨1⟩ read).output ∧
    ∃ report report' logged logged',
      Response.ofArguments ["-v", "s"] (some "/'") ⟨12345⟩ read =
        .report report (logged.map Log.Record.entry) ∧
      Response.ofArguments ["s", "-v", "--verbose"] (some "/'") ⟨1⟩ read =
        .report report' (logged'.map Log.Record.entry) ∧
      ∃ part, part.Sublist logged' ∧ List.Forall₂ (SameButTime ⟨12345⟩ ⟨1⟩) logged part := by
  intro read
  have first : Request.ofArguments ["-v", "s"] = .ok (.scan "s" 1) := by decide +kernel
  have second : Request.ofArguments ["s", "-v", "--verbose"] = .ok (.scan "s" 2) := by
    decide +kernel
  obtain ⟨results, logs⟩ := logging_leaves_results_alone first second read
  obtain ⟨report, report', response, response', -, more⟩ := logs (some "/'") ⟨12345⟩ ⟨1⟩
  refine ⟨first, second, (results _ _ _ _).2, report, report', _, _, response, response', ?_⟩
  apply more (by decide)
  have untimed : ∀ r ∈ (Report.ofContents "s" ⟨12345⟩ (read "s")).records, r.level ≠ .info := by
    decide +kernel
  rw [Response.ofArguments_of_scan first] at response
  have made := (Response.report.inj response).1
  intro pattern _ count told
  rw [← made] at told
  exact absurd rfl (untimed _ told)

/-- A pattern keeps one of two records of one level and target, and it may tell two times apart.
Then the run with the lower verbosity logs a record that the other does not. -/
theorem patterns_choose_among_messages :
    let read (_ : String) : Except ReadFault String := .ok "a "
    (∃ report, Response.ofArguments ["-vv", "s"] (some "trace/push") ⟨12345⟩ read =
        .report report ["[TRACE lexscan::lexer::lexer] 1:2: push back ' '"] ∧
      ∀ test : Log.Level → String → Bool,
        (report.records.filter fun r => test r.level r.target).map Log.Record.entry ≠
          ["[TRACE lexscan::lexer::lexer] 1:2: push back ' '"]) ∧
    (∃ report, Response.ofArguments ["s"] (some "info/12") ⟨12345⟩ read =
      .report report ["[INFO  lexscan] scanned 1 tokens in 12.345µs"]) ∧
    ∃ report, Response.ofArguments ["-v", "s"] (some "info/12") ⟨1⟩ read = .report report [] := by
  intro read
  have first : Request.ofArguments ["-vv", "s"] = .ok (.scan "s" 2) := by decide +kernel
  have second : Request.ofArguments ["s"] = .ok (.scan "s" 0) := by decide +kernel
  have third : Request.ofArguments ["-v", "s"] = .ok (.scan "s" 1) := by decide +kernel
  refine ⟨⟨.ofContents "s" ⟨12345⟩ (read "s"), ?_, ?_⟩, ⟨.ofContents "s" ⟨12345⟩ (read "s"), ?_⟩,
    ⟨.ofContents "s" ⟨1⟩ (read "s"), ?_⟩⟩
  · rw [Response.ofArguments_of_scan first]
    refine congrArg (Response.report _) ?_
    decide +kernel
  · intro test
    have records : (Report.ofContents "s" ⟨12345⟩ (read "s")).records =
        [⟨.debug, "lexscan::lexer::lexer", "scanner created for s (2 chars)"⟩,
          ⟨.trace, "lexscan::lexer::lexer", "1:2: push back ' '"⟩,
          ⟨.trace, "lexscan::lexer::lexer", "1:2: Token \x7b kind: Identifier, text: \"a\" \x7d"⟩,
          ⟨.info, "lexscan", "scanned 1 tokens in 12.345µs"⟩] := by
      decide +kernel
    rw [records]
    simp only [List.filter_cons, List.filter_nil]
    -- Of the two records in between either both are kept or none.
    generalize test .debug _ = debug, test .trace _ = trace, test .info _ = info
    decide +revert +kernel
  · rw [Response.ofArguments_of_scan second]
    refine congrArg (Response.report _) ?_
    decide +kernel
  · rw [Response.ofArguments_of_scan third]
    refine congrArg (Response.report _) ?_
    decide +kernel

end Lexical.CommandLine
