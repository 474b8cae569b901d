import DesignLint.CommandLine.Run
import DesignLint.Proofs.CommandLine.Switches
import DesignLint.Proofs.Config.Load
import DesignLint.Proofs.Report.Draft
import Mathlib.Logic.Basic

/-! # What a lint run leaves behind

A lint run complains in one line or reports on the pages, and never does a part of both. `Raised`
and `Completed` say what a run meets, in the order in which it does its work; `Outcome.Complains`
and `Outcome.Reports` say what it leaves behind:

* `RunError.Foreseen.exists_words`: an error that is foreseen has words for its complaint;
* `reply_cases`: a run that meets nothing unforeseen ends with an error or a written report;
* `lint_of_foreseen`, `lint_of_report`, `lint_cases`: what becomes of an error and of a report;
* `result_congr`, `report_congr`: what the root, the configuration file and the form of the report
  decide;
* `run_complains_or_reports`: the outcome of a lint run. -/

namespace DesignLint.CommandLine

/-! ## What a run meets -/

/-- The errors that a run answers: a configuration that is refused, a token source that is missing,
and a file that cannot be read. -/
inductive RunError.Foreseen : RunError → Prop
  /-- The configuration is refused. -/
  | config {cause : LoadError} (h : cause.isComplaint = true) : Foreseen (.load cause)
  /-- The token source is missing. -/
  | tokenSource (name : Text) : Foreseen (.lint (.tokenSourceMissing name))
  /-- A file cannot be read. -/
  | file (name : Text) (cause : AccessError) : Foreseen (.lint (.unreadable name cause))

/-- The error that ends a run. The configuration is loaded first, so the directory is linted only
if that succeeds. -/
inductive Raised (reader : Yaml.Reader) (tree : FileTree) (root : Path) (path? : Option Path) :
    RunError → Prop
  /-- The configuration cannot be loaded. -/
  | load {cause : LoadError} (h : Config.load reader tree root path? = .error cause) :
      Raised reader tree root path? (.load cause)
  /-- The configuration is loaded, and the directory cannot be linted. -/
  | lint {config : Config} {cause : LintError}
      (hload : Config.load reader tree root path? = .ok config)
      (h : Lint.run tree root config Registry.builtin.checks = .error cause) :
      Raised reader tree root path? (.lint cause)

/-- A run that ends without an error. -/
structure Completed (reader : Yaml.Reader) (tree : FileTree) (root : Path) (path? : Option Path)
    (config : Config) (result : RunResult) : Prop where
  /-- The configuration is loaded. -/
  load : Config.load reader tree root path? = .ok config
  /-- The directory is linted. -/
  lint : Lint.run tree root config Registry.builtin.checks = .ok result

/-! ## What a run leaves behind -/

/-- The lines that a run writes on its way to the error stream, if it is asked to. -/
def logLines (libraries : Libraries) (tree : FileTree) (options : Options) : List Text :=
  if options.verbose then (events libraries tree options).map Event.line else []

/-- One complaint behind the log, and nothing else. -/
structure Outcome.Complains (outcome : Outcome) (color : Bool) (lines : List Text)
    (words : Text) : Prop where
  /-- The exit code is 1. -/
  code : outcome.code = 1
  /-- The output stream stays empty. -/
  out : outcome.output.out = []
  /-- The complaint is one message on the error stream. -/
  err : outcome.output.err
    = lines.flatten ++ (Style.red.paint color "ERROR:".toList ++ ' ' :: words ++ ['\n'])

/-- The whole report behind the log, and nothing else. -/
structure Outcome.Reports (outcome : Outcome) (options : Options) (color : Bool)
    (lines : List Text) (config : Config) (result : RunResult) : Prop where
  /-- The exit code is that of the result. -/
  code : outcome.code = result.exitCode
  /-- If a document is asked for, it is all that is written to the output stream. -/
  json : options.json = true → ∃ document, Report.json result = .ok document ∧
    outcome.output.out = document ++ ['\n']
  /-- Otherwise the messages to a reader are, and they are told to the end. -/
  human : options.json = false → (Report.human result (fileKind config.extension)).stop? = none ∧
    outcome.output.out
      = (Message.write color (Report.human result (fileKind config.extension)).messages).out
  /-- Nothing but the log is written to the error stream. -/
  err : outcome.output.err = lines.flatten

variable {libraries : Libraries} {tree : FileTree} {options other : Options} {root : Path}
  {path? : Option Path} {config : Config} {found : RunResult} {output : Output} {e : RunError}
  {color : Bool}

/-- An error that is foreseen has words, and they are its complaint. -/
theorem RunError.Foreseen.exists_words (h : e.Foreseen) :
    ∃ words, e.message? = some words ∧ e.complaint? = some words := by
  cases h with
  | config h =>
    obtain ⟨words, hwords⟩ := LoadError.exists_message?_of_isComplaint h
    exact ⟨words, hwords, by rw [complaint?, if_pos h, hwords]⟩
  | tokenSource name => exact ⟨_, rfl, rfl⟩
  | file name cause => exact ⟨_, rfl, rfl⟩

/-- The log is written line by line. -/
theorem log_eq (libraries : Libraries) (tree : FileTree) (options : Options) :
    log libraries tree options = ⟨[], (logLines libraries tree options).flatten⟩ := by
  rw [log, logLines]
  split
  · rw [List.flatMap_def]
  · rfl

/-- A run ends with an error just when loading or linting does. -/
theorem result_eq_error_iff (hroot : rootPath libraries tree options = .ok root)
    (hpath : configPath libraries options = .ok path?) :
    result libraries tree options = .error e ↔ Raised libraries.yaml tree root path? e := by
  rw [result, hroot, ok_bind, hpath, ok_bind, bind_eq_error_iff, mapError_eq_error_iff]
  constructor
  · rintro (⟨cause, hload, rfl⟩ | ⟨config, hload, h⟩)
    · exact .load hload
    · rw [bind_eq_error_iff, mapError_eq_error_iff] at h
      obtain ⟨cause, hlint, rfl⟩ | ⟨found, -, h⟩ := h
      · exact .lint (mapError_eq_ok_iff.1 hload) hlint
      · cases h
  · rintro (⟨hload⟩ | ⟨hload, hlint⟩)
    · exact .inl ⟨_, hload, rfl⟩
    · refine .inr ⟨_, mapError_eq_ok_iff.2 hload, ?_⟩
      rw [bind_eq_error_iff, mapError_eq_error_iff]
      exact .inl ⟨_, hlint, rfl⟩

/-- A run has a result just when both give one. -/
theorem result_eq_ok_iff (hroot : rootPath libraries tree options = .ok root)
    (hpath : configPath libraries options = .ok path?) :
    result libraries tree options = .ok (config, found) ↔
      Completed libraries.yaml tree root path? config found := by
  rw [result, hroot, ok_bind, hpath, ok_bind, bind_eq_ok_iff]
  constructor
  · rintro ⟨config, hload, h⟩
    obtain ⟨found, hlint, hpair⟩ := bind_eq_ok_iff.1 h
    obtain ⟨rfl, rfl⟩ := Prod.mk.inj (Except.ok.inj hpair)
    exact ⟨mapError_eq_ok_iff.1 hload, mapError_eq_ok_iff.1 hlint⟩
  · intro h
    exact ⟨config, mapError_eq_ok_iff.2 h.load,
      bind_eq_ok_iff.2 ⟨found, mapError_eq_ok_iff.2 h.lint, rfl⟩⟩

/-- A run that raises an error is not completed. -/
theorem Raised.not_completed (h : Raised libraries.yaml tree root path? e) :
    ¬ Completed libraries.yaml tree root path? config found := by
  intro hcompleted
  cases h with
  | load hload =>
    rw [hcompleted.load] at hload
    cases hload
  | lint hload hlint =>
    rw [hcompleted.load, Except.ok.injEq] at hload
    rw [← hload, hcompleted.lint] at hlint
    cases hlint

/-- A run that meets nothing unforeseen has a root directory, and knows where to look for its
configuration. -/
theorem exists_paths (hforeseen : ∀ e, result libraries tree options = .error e → e.Foreseen) :
    ∃ root path?, rootPath libraries tree options = .ok root ∧
      configPath libraries options = .ok path? := by
  -- Without one of them the run would end with an error that is not foreseen.
  cases hroot : rootPath libraries tree options with
  | error e =>
    have hresult : result libraries tree options = .error e := by rw [result, hroot, error_bind]
    obtain ⟨cause, -, rfl⟩ := mapError_eq_error_iff.1 hroot
    cases hforeseen _ hresult
  | ok root =>
    cases hpath : configPath libraries options with
    | error e =>
      have hresult : result libraries tree options = .error e := by
        rw [result, hroot, ok_bind, hpath, error_bind]
      have hcause : e = .noConfigPath := by
        rw [configPath] at hpath
        split at hpath
        · cases hpath
        · split at hpath
          · cases hpath
          · exact (Except.error.inj hpath).symm
      rw [hcause] at hresult
      cases hforeseen _ hresult
    | ok path? => exact ⟨root, path?, rfl, rfl⟩

/-- The root and the configuration file decide what a run meets. -/
theorem result_congr (hroot : other.root = options.root) (hconfig : other.config = options.config) :
    result libraries tree other = result libraries tree options := by
  rw [result, result, rootPath, rootPath, configPath, configPath, hroot, hconfig]

/-! ## What it is answered with -/

/-- An error of a run is an error of its reply. -/
theorem reply_of_error (hresult : result libraries tree options = .error e) (color : Bool) :
    reply libraries tree color options = .error e := by
  rw [reply, hresult, error_bind]

/-- A result is replied to with a report, if this can be written. -/
theorem reply_of_ok (hresult : result libraries tree options = .ok (config, found))
    (color : Bool) :
    reply libraries tree color options
      = ((report options color config found).mapError .report).map (⟨found.exitCode, ·⟩) := by
  rw [reply, hresult, ok_bind]
  dsimp only
  cases report options color config found with
  | error cause => rfl
  | ok output => rfl

/-- **A run that meets nothing unforeseen** ends with an error that is foreseen, or with a result
whose report can be written. -/
theorem reply_cases
    (hforeseen : ∀ e, reply libraries tree color options = .error e → e.Foreseen) :
    (∃ e, result libraries tree options = .error e ∧ e.Foreseen) ∨
      ∃ config found output, result libraries tree options = .ok (config, found) ∧
        report options color config found = .ok output := by
  cases hresult : result libraries tree options with
  | error e => exact .inl ⟨e, rfl, hforeseen e (reply_of_error hresult color)⟩
  | ok pair =>
    obtain ⟨config, found⟩ := pair
    cases hreport : report options color config found with
    | ok output => exact .inr ⟨config, found, output, rfl, hreport⟩
    | error cause =>
      have hreply : reply libraries tree color options = .error (.report cause) := by
        rw [reply_of_ok hresult, hreport]
        rfl
      cases hforeseen _ hreply

/-- The form of the report decides what is in it. -/
theorem report_congr (hjson : other.json = options.json) (color : Bool) (config : Config)
    (found : RunResult) : report other color config found = report options color config found := by
  rw [report, report, hjson]

/-- A report that can be written can be written in colour and without. -/
theorem exists_report_of_color (h : report options color config found = .ok output)
    (color' : Bool) : ∃ output', report options color' config found = .ok output' := by
  rw [report] at h ⊢
  split at h
  · rename_i hjson
    exact ⟨output, by rw [if_pos hjson, h]⟩
  · rename_i hhuman
    rw [if_neg hhuman, written]
    rw [written] at h
    split at h
    · exact ⟨_, rfl⟩
    · cases h

/-! ## What becomes of it -/

/-- An error that is foreseen becomes a complaint. -/
theorem lint_of_foreseen (hresult : result libraries tree options = .error e)
    (hforeseen : e.Foreseen) (color : Bool) :
    ∃ outcome words, lint libraries tree color options = .ok outcome ∧ e.message? = some words ∧
      outcome.Complains (color && !options.noColor) (logLines libraries tree options) words := by
  obtain ⟨words, hmessage, hcomplaint⟩ := hforeseen.exists_words
  refine ⟨⟨1, log libraries tree options
    ++ (Message.error words).output (color && !options.noColor)⟩, words, ?_, hmessage, rfl, ?_, ?_⟩
  · rw [lint, reply_of_error hresult]
    dsimp only
    rw [hcomplaint]
  · rw [log_eq]
    rfl
  · rw [log_eq]
    rfl

/-- A report that can be written becomes the outcome, behind the log. -/
theorem lint_of_report (hresult : result libraries tree options = .ok (config, found))
    (hreport : report options (color && !options.noColor) config found = .ok output) :
    lint libraries tree color options
      = .ok ⟨found.exitCode, log libraries tree options ++ output⟩ := by
  rw [lint, reply_of_ok hresult, hreport]
  rfl

/-- Such an outcome is the whole report and nothing else. -/
theorem reports_of_report (libraries : Libraries) (tree : FileTree)
    (hreport : report options color config found = .ok output) :
    Outcome.Reports ⟨found.exitCode, log libraries tree options ++ output⟩ options color
      (logLines libraries tree options) config found := by
  have hout (output : Output) : (log libraries tree options ++ output).out = output.out := by
    rw [log_eq]
    rfl
  have herr (output : Output) : (log libraries tree options ++ output).err
      = (logLines libraries tree options).flatten ++ output.err := by
    rw [log_eq]
    rfl
  rw [report] at hreport
  split at hreport
  · rename_i hjson
    obtain ⟨document, hdocument, rfl⟩ := map_eq_ok_iff.1 hreport
    refine ⟨rfl, fun _ => ⟨document, hdocument, hout _⟩, fun hhuman => ?_, ?_⟩
    · rw [hjson] at hhuman
      exact nomatch hhuman
    · exact (herr _).trans (List.append_nil _)
  · rename_i hhuman
    rw [written] at hreport
    split at hreport
    · rename_i hstop
      obtain rfl := Except.ok.inj hreport
      refine ⟨rfl, fun hjson => absurd hjson hhuman, fun _ => ⟨hstop, hout _⟩, ?_⟩
      rw [herr, Message.err_write (Report.isLine_of_mem_human _ _) color,
        List.append_nil]
    · cases hreport

/-- **What a lint run leaves behind**: a complaint about an error, or a report about a result. -/
theorem lint_cases (hforeseen : ∀ e,
      reply libraries tree (color && !options.noColor) options = .error e → e.Foreseen) :
    ∃ outcome, lint libraries tree color options = .ok outcome ∧
      ((∃ e words, result libraries tree options = .error e ∧ e.Foreseen ∧
          e.message? = some words ∧
          outcome.Complains (color && !options.noColor) (logLines libraries tree options) words) ∨
        ∃ config found, result libraries tree options = .ok (config, found) ∧
          outcome.Reports options (color && !options.noColor) (logLines libraries tree options)
            config found) := by
  rcases reply_cases hforeseen with ⟨e, he, hforeseen⟩ | ⟨config, found, output, hfound, hreport⟩
  · obtain ⟨outcome, words, houtcome, hwords, hcomplains⟩ := lint_of_foreseen he hforeseen color
    exact ⟨outcome, houtcome, .inl ⟨e, words, he, hforeseen, hwords, hcomplains⟩⟩
  · exact ⟨_, lint_of_report hfound hreport,
      .inr ⟨config, found, hfound, reports_of_report libraries tree hreport⟩⟩

/-- **Two runs that meet the same** leave the same exit code, and the same output if they report in
the same way; or the other one reports in another form, in which its report cannot be written. -/
theorem lint_congr (hresult : result libraries tree other = result libraries tree options)
    (hforeseen : ∀ e,
      reply libraries tree (color && !options.noColor) options = .error e → e.Foreseen)
    {outcome : Outcome} (houtcome : lint libraries tree color options = .ok outcome)
    (color' : Bool) :
    (∃ outcome', lint libraries tree color' other = .ok outcome' ∧ outcome'.code = outcome.code ∧
      (color' = color → other.json = options.json → other.noColor = options.noColor →
        outcome'.output.out = outcome.output.out)) ∨
    other.json ≠ options.json ∧
      ∃ cause, lint libraries tree color' other = .error (.report cause) := by
  rcases reply_cases hforeseen with ⟨e, he, hforeseen⟩ | ⟨config, found, output, hfound, hreport⟩
  · obtain ⟨first, words, hfirst, -, hcomplains⟩ := lint_of_foreseen he hforeseen color
    obtain ⟨second, words', hsecond, -, hcomplains'⟩ :=
      lint_of_foreseen (hresult.trans he) hforeseen color'
    obtain rfl := Except.ok.inj (houtcome.symm.trans hfirst)
    refine .inl ⟨second, hsecond, ?_, fun _ _ _ => ?_⟩
    · rw [hcomplains.code, hcomplains'.code]
    · rw [hcomplains.out, hcomplains'.out]
  · obtain rfl := Except.ok.inj (houtcome.symm.trans (lint_of_report hfound hreport))
    have hother := hresult.trans hfound
    cases hreport' : report other (color' && !other.noColor) config found with
    | ok output' =>
      refine .inl ⟨_, lint_of_report hother hreport', rfl, fun hcolor hjson hnoColor => ?_⟩
      rw [hcolor, hnoColor, report_congr hjson, hreport, Except.ok.injEq] at hreport'
      rw [hreport']
      show (log libraries tree other).out ++ _ = (log libraries tree options).out ++ _
      rw [log_eq, log_eq]
    | error cause =>
      refine .inr ⟨fun hjson => ?_, cause, ?_⟩
      · obtain ⟨output', houtput'⟩ := exists_report_of_color hreport (color' && !other.noColor)
        rw [report_congr hjson, houtput'] at hreport'
        cases hreport'
      · rw [lint, reply_of_ok hother, hreport']
        rfl

/-! ## The program -/

/-- What the program does with arguments that ask for a lint run. -/
theorem run_eq_lint {args : List Text} (hargs : parse args = .ok (.lint options)) (color : Bool) :
    run libraries tree color args = lint libraries tree color options := by
  rw [run, hargs]

/-- **A lint run complains or reports**, if it meets no error but those that are foreseen. Either an
error is raised, and nothing is left but the exit code 1 and one complaint with its words; or the
run is completed, and the whole report about its result is left with the exit code of the result.
An error of the configuration is the one that is raised, whatever the directory is like. Another run
on the same root and configuration file has the same exit code, and the same output if it reports in
the same way and the same colour, unless it reports in another form, in which the report cannot be
written; a switch in front of the arguments leads to such a run. -/
theorem run_complains_or_reports {args : List Text} (hargs : parse args = .ok (.lint options))
    (color : Bool) (hforeseen : ∀ e,
      reply libraries tree (color && !options.noColor) options = .error e → e.Foreseen) :
    ∃ root path? outcome, rootPath libraries tree options = .ok root ∧
      configPath libraries options = .ok path? ∧ run libraries tree color args = .ok outcome ∧
      Xor (∃ e words, Raised libraries.yaml tree root path? e ∧ e.Foreseen ∧
          e.message? = some words ∧
          outcome.Complains (color && !options.noColor) (logLines libraries tree options) words)
        (∃ config found, Completed libraries.yaml tree root path? config found ∧
          outcome.Reports options (color && !options.noColor) (logLines libraries tree options)
            config found) ∧
      (∀ cause, Config.load libraries.yaml tree root path? = .error cause →
        ∃ words, cause.message? = some words ∧
          outcome.Complains (color && !options.noColor) (logLines libraries tree options) words) ∧
      (∀ args' other color', parse args' = .ok (.lint other) → other.root = options.root →
        other.config = options.config →
        (∃ outcome', run libraries tree color' args' = .ok outcome' ∧
          outcome'.code = outcome.code ∧
          (color' = color → other.json = options.json → other.noColor = options.noColor →
            outcome'.output.out = outcome.output.out)) ∨
        other.json ≠ options.json ∧
          ∃ cause, run libraries tree color' args' = .error (.report cause)) ∧
      ∀ entry ∈ Flag.spellings, entry.2 ∈ switches →
        parse (entry.1 :: args) = .ok (.lint (options.withSwitch entry.2)) := by
  have hraise : ∀ e, result libraries tree options = .error e → e.Foreseen :=
    fun e he => hforeseen e (reply_of_error he _)
  obtain ⟨root, path?, hroot, hpath⟩ := exists_paths hraise
  obtain ⟨outcome, houtcome, hcases⟩ := lint_cases hforeseen
  refine ⟨root, path?, outcome, hroot, hpath, ?_, ?_, ?_, ?_, ?_⟩
  · rw [run_eq_lint hargs, houtcome]
  · obtain ⟨e, words, hresult, hforeseen, hwords, hcomplains⟩ | ⟨config, found, hresult, hreports⟩
      := hcases
    · have hraised := (result_eq_error_iff hroot hpath).1 hresult
      refine .inl ⟨⟨e, words, hraised, hforeseen, hwords, hcomplains⟩, ?_⟩
      rintro ⟨config, found, hcompleted, -⟩
      exact hraised.not_completed hcompleted
    · have hcompleted := (result_eq_ok_iff hroot hpath).1 hresult
      refine .inr ⟨⟨config, found, hcompleted, hreports⟩, ?_⟩
      rintro ⟨e, words, hraised, -⟩
      exact hraised.not_completed hcompleted
  · intro cause hload
    have hresult := (result_eq_error_iff hroot hpath).2 (.load hload)
    obtain ⟨first, words, hfirst, hwords, hcomplains⟩ :=
      lint_of_foreseen hresult (hraise _ hresult) color
    obtain rfl := Except.ok.inj (houtcome.symm.trans hfirst)
    exact ⟨words, hwords, hcomplains⟩
  · intro args' other color' hargs' hroot' hconfig'
    rw [run_eq_lint hargs']
    exact lint_congr (result_congr hroot' hconfig') hforeseen houtcome color'
  · intro entry hentry hswitch
    exact parse_cons_switch hargs hentry hswitch

/-- A run with a log in colour on a directory without files complains about the stylesheet. -/
theorem run_complains_or_reports_empty_directory :
    let libraries : Libraries := ⟨Yaml.Document.reader fun _ => [], false⟩
    let tree : FileTree := ⟨.directory [], []⟩
    ∃ outcome, run libraries tree true ["-v".toList] = .ok outcome ∧ outcome.code = 1 ∧
      outcome.output.out = [] ∧ outcome.output.err =
        ("DEBUG stylegate.config: No stylegate.yaml in /, using defaults\n" ++
          "\x1b[91mERROR:\x1b[0m styles.css not found\n").toList := by
  intro libraries tree
  have hargs : parse ["-v".toList] = .ok (.lint { verbose := true }) := by
    have hnone : parse [] = .ok (.lint {}) := by
      rw [parse, classifyAll, ok_bind, effect]
      rfl
    have hentry : ("-v".toList, Flag.verbose) ∈ Flag.spellings := by decide
    exact parse_cons_switch hnone hentry (by decide)
  have hresult : result libraries tree { verbose := true }
      = .error (.lint (.tokenSourceMissing "styles.css".toList)) := failure?_eq_some_iff.1 (by rfl)
  have hforeseen : ∀ e, reply libraries tree true { verbose := true } = .error e → e.Foreseen := by
    intro e he
    rw [reply_of_error hresult, Except.error.injEq] at he
    rw [← he]
    exact .tokenSource _
  obtain ⟨root, path?, outcome, hroot, hpath, hrun, hcases, -⟩ :=
    run_complains_or_reports hargs true hforeseen
  obtain ⟨⟨e, words, hraised, -, hwords, hcomplains⟩, -⟩ | ⟨⟨config, found, hcompleted, -⟩, -⟩ :=
    hcases
  · have he := (result_eq_error_iff hroot hpath).2 hraised
    rw [hresult, Except.error.injEq] at he
    rw [← he] at hwords
    obtain rfl := Option.some_inj.1 hwords
    refine ⟨outcome, hrun, hcomplains.code, hcomplains.out, ?_⟩
    rw [hcomplains.err]
    rfl
  · rw [(result_eq_ok_iff hroot hpath).2 hcompleted] at hresult
    cases hresult

/-- A page that cannot be read ends a run behind a page that can. -/
example :
    let tree : FileTree := ⟨.directory [("b.html".toList, .unreadable .denied),
      ("a.html".toList, .file []), ("styles.css".toList, .file [])], []⟩
    failure? (reply ⟨Yaml.Document.reader fun _ => [], false⟩ tree true {})
      = some (.lint (.unreadable "b.html".toList (.reading .denied "/b.html".toList))) := by
  cbv

end DesignLint.CommandLine
