import DesignLint.Proofs.Console
import DesignLint.Proofs.Numeral
import DesignLint.Report.Human

/-! # What is told of a report

A report is told message by message, up to the first that shows a number with too many digits:

* `Report.Each`: what is true of every message that a draft may tell;
* `Report.stop?_told`, `Report.told_of_map_line`: what ends a draft, and what is told of one
  that nothing ends;
* `Report.stop?_human`: the numbers that the report for a reader shows, the first overlong one of
  which ends it;
* `Report.isLine_of_mem_human`: all messages of the report are lines for the output stream. -/

namespace DesignLint

open Numeral

/-! ## The places of findings -/

/-- The page of a finding and, if it has a line, the line. -/
def Finding.place (f : Finding) : Text :=
  if 0 < f.line then f.file ++ ':' :: Text.ofInt f.line else f.file

/-- The numbers that the place of a finding shows. -/
def Finding.numbers (f : Finding) : List Int := if 0 < f.line then [f.line] else []

variable {f : Finding} {c : Char} {s : Text}

/-- **The place of a finding is written** if its line is. -/
theorem Finding.location_eq_ok_iff :
    f.location = .ok s ↔ (∀ n ∈ f.numbers, Writable n) ∧ f.place = s := by
  rw [location, place, numbers]
  split
  · rw [map_eq_ok_iff, List.forall_mem_singleton]
    constructor
    · rintro ⟨digits, hdigits, rfl⟩
      obtain ⟨hline, rfl⟩ := writeInteger_eq_ok_iff.1 hdigits
      exact ⟨hline, rfl⟩
    · rintro ⟨hline, rfl⟩
      exact ⟨_, writeInteger_of_writable hline, rfl⟩
  · rw [Except.ok.injEq, and_iff_right (List.forall_mem_nil _)]

/-- Otherwise it fails like its line. -/
theorem Finding.failure?_location (f : Finding) :
    failure? f.location = firstUnwritten? f.numbers := by
  rw [location, numbers]
  split
  · rw [failure?_map, firstUnwritten?_singleton]
  · rfl

/-- The place of a finding consists of the name of the page, a colon and a numeral. -/
theorem Finding.not_mem_place (hdigit : c.isDigit = false) (hmarks : c ∉ ['-', ':'])
    (hfile : c ∉ f.file) : c ∉ f.place := by
  simp only [List.mem_cons, List.not_mem_nil, or_false, not_or] at hmarks
  have hline : c ∉ Text.ofInt f.line := Text.not_mem_ofInt hdigit hmarks.1 f.line
  rw [place]
  split
  · exact List.not_mem_append hfile (List.not_mem_cons_of_ne_of_not_mem hmarks.2 hline)
  · exact hfile

namespace Report

open Message

/-- How the reason of an exemption is shown consists of fixed words and the reason. -/
theorem not_mem_exemptSuffix {c : Char} {reason : Text} (hwords : c ∉ " (exempt — )".toList)
    (hreason : c ∉ reason) : c ∉ exemptSuffix reason := by
  rw [exemptSuffix]
  split
  · exact fun h => hwords ((by decide : " (exempt)".toList ⊆ " (exempt — )".toList) h)
  · refine List.not_mem_append (List.not_mem_append ?_ hreason) ?_
    · exact fun h => hwords (List.mem_append_left [')'] h)
    · exact fun h => hwords (List.mem_append_right " (exempt — ".toList h)

/-! ## Drafts -/

/-- Every message that a draft may tell has a property. -/
def Each (good : Message → Prop) (draft : Draft) : Prop :=
  ∀ message, .ok message ∈ draft → good message

section Each

variable {good : Message → Prop} {rest front back : Draft}

@[simp]
theorem each_nil : Each good [] := fun _ => nofun

@[simp]
theorem each_cons {first : Except Unwritable Message} :
    Each good (first :: rest) ↔
      (∀ message, first = .ok message → good message) ∧ Each good rest := by
  simp only [Each, List.mem_cons, or_imp, forall_and, eq_comm]

@[simp]
theorem each_append : Each good (front ++ back) ↔ Each good front ∧ Each good back := by
  simp only [Each, List.mem_append, or_imp, forall_and]

@[simp]
theorem each_flatMap {α : Type} {parts : α → Draft} {as : List α} :
    Each good (as.flatMap parts) ↔ ∀ a ∈ as, Each good (parts a) := by
  simp only [Each, List.mem_flatMap]
  exact ⟨fun h a ha message hmessage => h message ⟨a, ha, hmessage⟩,
    fun h message ⟨a, ha, hmessage⟩ => h a ha message hmessage⟩

/-- **What is told of a draft** are messages that it may tell. -/
theorem Each.of_mem_told {draft : Draft} (h : Each good draft) :
    ∀ message ∈ (told draft).messages, good message := by
  induction draft with
  | nil => exact List.forall_mem_nil _
  | cons first rest ih =>
    cases first with
    | ok message =>
      obtain ⟨hfirst, hrest⟩ := each_cons.1 h
      exact List.forall_mem_cons.2 ⟨hfirst message rfl, ih hrest⟩
    | error cause => exact List.forall_mem_nil _

end Each

/-- **A draft ends with the first message that has no text.** -/
theorem stop?_told (draft : Draft) : (told draft).stop? = draft.findSome? failure? := by
  induction draft with
  | nil => rfl
  | cons first rest ih =>
    cases first with
    | ok message => exact ih
    | error cause => rfl

/-- **A draft whose messages all have a text** is told as a whole. -/
theorem told_of_map_line {draft : Draft} {lines : List Text}
    (h : draft.map (line <$> ·) = lines.map .ok) :
    (told draft).stop? = none ∧ (told draft).messages.map line = lines := by
  induction draft generalizing lines with
  | nil =>
    obtain rfl := List.map_eq_nil_iff.1 h.symm
    exact ⟨rfl, rfl⟩
  | cons first rest ih =>
    cases lines with
    | nil => exact nomatch h
    | cons written lines =>
      obtain ⟨hfirst, hrest⟩ := List.cons.inj h
      obtain ⟨message, rfl, rfl⟩ := map_eq_ok_iff.1 hfirst
      obtain ⟨hstop, hlines⟩ := ih hrest
      exact ⟨hstop, congrArg (line message :: ·) hlines⟩

/-- The message that sums up a run with findings shows their number and that of the pages. -/
theorem failureMessage_eq_ok_iff {result : RunResult} {message : Message} :
    failureMessage result = .ok message ↔ ∃ total failing,
      writeInteger result.totalFindings = .ok total ∧
      writeInteger result.failing.length = .ok failing ∧
      failure (total ++ " violation(s) in ".toList ++ failing ++ " file(s)".toList) = message := by
  simp only [failureMessage, bind_eq_ok_iff, bind_pure_comp, map_eq_ok_iff, exists_and_left]

/-! ## Numbers -/

/-- The numbers that the messages about a page show. -/
def pageNumbers (page : PageResult) : List Int :=
  if page.exemptReason = none ∧ page.findings ≠ [] then
    (page.findings.length : Int) :: page.findings.flatMap Finding.numbers
  else []

/-- The numbers that the messages about a whole run show. -/
def summaryNumbers (result : RunResult) : List Int :=
  if result.exitCode = 0 then [(result.pages.length : Int)]
  else [(result.totalFindings : Int), (result.failing.length : Int)]

/-- The numbers that the report for a reader shows. -/
def numbers (result : RunResult) : List Int :=
  result.paletteSize ::
    if result.pages = [] then [] else result.pages.flatMap pageNumbers ++ summaryNumbers result

/-- What ends the messages about a finding. -/
theorem findSome?_findingMessages (f : Finding) :
    (findingMessages f).findSome? failure? = firstUnwritten? f.numbers := by
  rw [findingMessages, findSome?_cons_or, failure?_map, Finding.failure?_location]
  split
  · exact Option.or_none
  · exact Option.or_none

/-- What ends the messages about a page. -/
theorem findSome?_pageMessages (page : PageResult) :
    (pageMessages page).findSome? failure? = firstUnwritten? (pageNumbers page) := by
  cases hreason : page.exemptReason with
  | some reason =>
    simp only [pageMessages, pageNumbers, hreason]
    rfl
  | none =>
    by_cases hnone : page.findings = []
    · simp only [pageMessages, pageNumbers, hreason, hnone, PageResult.passed]
      rfl
    · have hfindings : (page.findings.flatMap findingMessages).findSome? failure?
          = firstUnwritten? (page.findings.flatMap Finding.numbers) := by
        simp only [findSome?_flatMap, findSome?_findingMessages, firstUnwritten?]
      simp [pageMessages, pageNumbers, hreason, hnone, PageResult.passed, hfindings,
        findSome?_cons_or, firstUnwritten?_cons]

/-- What ends the messages that sum a run up. -/
theorem findSome?_summaryMessages (result : RunResult) :
    (summaryMessages result).findSome? failure? = firstUnwritten? (summaryNumbers result) := by
  by_cases hpassed : result.passed = true
  · simp [summaryMessages, summaryNumbers, RunResult.exitCode, hpassed, findSome?_cons_or,
      firstUnwritten?_singleton]
  · have hfailure : failure? (failureMessage result)
        = firstUnwritten? [(result.totalFindings : Int), (result.failing.length : Int)] := by
      rw [failureMessage, failure?_pair, firstUnwritten?_cons, firstUnwritten?_singleton]
    simp [summaryMessages, summaryNumbers, RunResult.exitCode, hpassed, findSome?_cons_or, hfailure]

/-- **The report for a reader ends with the first number that has too many digits.** -/
theorem stop?_human (result : RunResult) (fileKind : Text) :
    (human result fileKind).stop? = firstUnwritten? (numbers result) := by
  have hpages : (result.pages.flatMap pageMessages).findSome? failure?
      = firstUnwritten? (result.pages.flatMap pageNumbers) := by
    simp only [findSome?_flatMap, findSome?_pageMessages, firstUnwritten?]
  rw [human, stop?_told, draft, numbers, firstUnwritten?_cons]
  by_cases hnone : result.pages = []
  · simp [hnone, findSome?_cons_or, firstUnwritten?]
  · simp [hnone, findSome?_cons_or, hpages, findSome?_summaryMessages, firstUnwritten?_append]

/-! ## Lines for the output stream -/

/-- The messages about a page are lines for the output stream. -/
theorem each_isLine_pageMessages (page : PageResult) : Each IsLine (pageMessages page) := by
  have hfinding (f : Finding) : Each IsLine (findingMessages f) := by
    rw [findingMessages]
    split <;> simp [map_eq_ok_iff, IsLine.detail, IsLine.dim]
  rw [pageMessages]
  split
  · simp [IsLine.success]
  · split <;> simp [map_eq_ok_iff, IsLine.success, IsLine.failure, IsLine.info, hfinding]

/-- So are those that sum a run up. -/
theorem each_isLine_summaryMessages (result : RunResult) :
    Each IsLine (summaryMessages result) := by
  rw [summaryMessages]
  split
  · simp [map_eq_ok_iff, IsLine.rule, IsLine.info, IsLine.success]
  · have hfailure : ∀ message, failureMessage result = .ok message → message.IsLine := by
      intro message h
      obtain ⟨total, failing, -, -, rfl⟩ := failureMessage_eq_ok_iff.1 h
      exact .failure _
    simpa [IsLine.rule, IsLine.info] using hfailure

/-- **The report for a reader consists of lines for the output stream.** -/
theorem isLine_of_mem_human (result : RunResult) (fileKind : Text) :
    ∀ message ∈ (human result fileKind).messages, message.IsLine := by
  refine Each.of_mem_told ?_
  rw [draft, each_append]
  refine ⟨by simp [map_eq_ok_iff, IsLine.info], ?_⟩
  split
  · simp [IsLine.info]
  · simp [each_isLine_pageMessages, each_isLine_summaryMessages]

end Report

end DesignLint
