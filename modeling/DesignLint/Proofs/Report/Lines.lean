import DesignLint.Proofs.Report.Draft

/-! # The lines of the report

What the report for a reader says, line by line, where colour is off. The lines are told here from
the result alone: each page has a status, each finding a line with its value below it, and the run
a summary.

* `Report.findingLine`, `Report.valueLine`, `Report.statusLine`, `Report.summaryLine`: these lines;
* `Report.lines_human`: the whole report;
* `Report.Accounts`: what a report has to show of a result, told by how its lines begin;
* `Report.accounts_human`: the report shows it. -/

namespace DesignLint

open Text

/-- No text of a finding holds a line feed. -/
structure Finding.OneLine (f : Finding) : Prop where
  /-- The name of the page. -/
  file : '\n' ∉ f.file
  /-- The text at fault. -/
  value : '\n' ∉ f.value
  /-- The explanation. -/
  message : '\n' ∉ f.message

/-- No text about a page holds a line feed. -/
structure PageResult.OneLine (page : PageResult) : Prop where
  /-- The name of the page. -/
  name : '\n' ∉ page.name
  /-- The reason of an exemption. -/
  reason : ∀ reason ∈ page.exemptReason, '\n' ∉ reason
  /-- The findings. -/
  findings : ∀ f ∈ page.findings, f.OneLine

namespace Report

open Message Numeral

/-! ## Lines -/

/-- The line about a finding. -/
def findingLine (f : Finding) : Text :=
  "  [".toList ++ f.kind.name ++ "] ".toList ++ f.place ++ " → ".toList ++ f.message

/-- The line about the value of a finding. -/
def valueLine (f : Finding) : Text := "    value: ".toList ++ f.value

/-- The lines about a finding: an empty value has none. -/
def findingLines (f : Finding) : List Text :=
  findingLine f :: if f.value = [] then [] else [valueLine f]

/-- The line about a page: a cross with the number of findings if there are any, and a check mark
otherwise. -/
def statusLine (page : PageResult) : Text :=
  if page.findings = [] then
    "✓ ".toList ++ page.name ++ (page.exemptReason.map exemptSuffix).getD []
  else
    "✗ ".toList ++ page.name ++ " — ".toList ++ ofNat page.findings.length ++
      " violation(s):".toList

/-- The lines about a page: an empty one ends those about a page that was scanned. -/
def pageLines (page : PageResult) : List Text :=
  statusLine page ::
    (page.findings.flatMap findingLines ++ if page.exemptReason = none then [[]] else [])

/-- The line that sums a run up. -/
def summaryLine (result : RunResult) : Text :=
  if result.exitCode = 0 then
    "✓ ALL CLEAN — ".toList ++ ofNat result.pages.length ++ " files, 0 violations".toList
  else
    "✗ ".toList ++ ofNat result.totalFindings ++ " violation(s) in ".toList ++
      ofNat result.failing.length ++ " file(s)".toList

/-- The line that opens a report. -/
def openingLine (result : RunResult) : Text :=
  "Design system: ".toList ++ ofInt result.paletteSize ++ " colors in palette".toList

/-- The line that closes a report. -/
def closingLine (result : RunResult) : Text :=
  if result.exitCode = 0 then "All prototypes conform to the design system.".toList
  else "Fix violations to ensure brand consistency.".toList

/-- The lines behind those about pages. -/
def summaryLines (result : RunResult) : List Text :=
  [List.replicate ruleWidth '─', [], summaryLine result, [], closingLine result]

/-- The lines of a report about at least one page; an empty one stands at the end. -/
def reportLines (result : RunResult) : List Text :=
  openingLine result :: [] :: (result.pages.flatMap pageLines ++ (summaryLines result ++ [[]]))

/-! ## Messages and lines -/

/-- The messages about a finding write its lines, if its numbers are written. -/
theorem map_findingMessages {f : Finding} (h : ∀ n ∈ f.numbers, Writable n) :
    (findingMessages f).map (line <$> ·) = (findingLines f).map .ok := by
  rw [findingMessages, findingLines, Finding.location_eq_ok_iff.2 ⟨h, rfl⟩]
  by_cases hvalue : f.value = []
  · rw [if_pos hvalue, if_pos (List.isEmpty_iff.2 hvalue)]
    rfl
  · rw [if_neg hvalue, if_neg (mt List.isEmpty_iff.1 hvalue)]
    rfl

/-- A count is written in its digits. -/
theorem writeInteger_natCast {n : Nat} (h : Writable n) : writeInteger n = .ok (ofNat n) :=
  writeInteger_of_writable h

/-- **The messages about a page write its lines**, unless it is exempt and has findings. -/
theorem map_pageMessages {page : PageResult}
    (hexempt : page.exemptReason ≠ none → page.findings = [])
    (hnumbers : ∀ n ∈ pageNumbers page, Writable n) :
    (pageMessages page).map (line <$> ·) = (pageLines page).map .ok := by
  cases hreason : page.exemptReason with
  | some reason =>
    -- The messages leave out the findings of an exempt page, so it must have none.
    have hnone : page.findings = [] := hexempt (by rw [hreason]; exact Option.some_ne_none reason)
    simp [pageMessages, pageLines, statusLine, hreason, hnone, line]
  | none =>
    by_cases hnone : page.findings = []
    · simp [pageMessages, PageResult.passed, pageLines, statusLine, hreason, hnone, line]
    · rw [pageNumbers, if_pos ⟨hreason, hnone⟩, List.forall_mem_cons] at hnumbers
      obtain ⟨hcount, hplaces⟩ := hnumbers
      have hdetails : (page.findings.flatMap findingMessages).map (line <$> ·)
          = (page.findings.flatMap findingLines).map .ok := by
        rw [List.map_flatMap, List.map_flatMap]
        exact List.flatMap_congr fun f hf =>
          map_findingMessages fun n hn => hplaces n (List.mem_flatMap.2 ⟨f, hf, hn⟩)
      have hstatus : (pageMessages page).map (line <$> ·)
          = .ok (statusLine page) :: ((page.findings.flatMap findingMessages).map (line <$> ·)
            ++ [.ok []]) := by
        simp [pageMessages, PageResult.passed, statusLine, hreason, hnone,
          writeInteger_natCast hcount, line]
      rw [hstatus, hdetails, pageLines, if_pos hreason, List.map_cons, List.map_append]
      rfl

/-- The messages that sum a run up write the lines that do. -/
theorem map_summaryMessages {result : RunResult}
    (hnumbers : ∀ n ∈ summaryNumbers result, Writable n) :
    (summaryMessages result).map (line <$> ·) = (summaryLines result).map .ok := by
  by_cases hpassed : result.passed = true
  · have hcount : Writable result.pages.length := hnumbers _ (by
      simp [summaryNumbers, RunResult.exitCode, hpassed])
    simp [summaryMessages, summaryLines, summaryLine, closingLine, RunResult.exitCode, hpassed,
      writeInteger_natCast hcount, line]
  · have htotal : Writable result.totalFindings := hnumbers _ (by
      simp [summaryNumbers, RunResult.exitCode, hpassed])
    have hfailing : Writable result.failing.length := hnumbers _ (by
      simp [summaryNumbers, RunResult.exitCode, hpassed])
    have hfailure := failureMessage_eq_ok_iff.2 ⟨_, _, writeInteger_natCast htotal,
      writeInteger_natCast hfailing, rfl⟩
    simp [summaryMessages, summaryLines, summaryLine, closingLine, RunResult.exitCode, hpassed,
      hfailure, line]

/-- **All messages of the report** write its lines, if its numbers are written. -/
theorem map_draft {result : RunResult} (fileKind : Text) (hpages : result.pages ≠ [])
    (hexempt : ∀ page ∈ result.pages, page.exemptReason ≠ none → page.findings = [])
    (hnumbers : ∀ n ∈ numbers result, Writable n) :
    (draft result fileKind).map (line <$> ·) = (openingLine result :: [] ::
      (result.pages.flatMap pageLines ++ summaryLines result)).map .ok := by
  rw [numbers, if_neg hpages, List.forall_mem_cons, List.forall_mem_append] at hnumbers
  obtain ⟨hsize, hpageNumbers, hsummary⟩ := hnumbers
  have hdetails : (result.pages.flatMap pageMessages).map (line <$> ·)
      = (result.pages.flatMap pageLines).map .ok := by
    rw [List.map_flatMap, List.map_flatMap]
    exact List.flatMap_congr fun page hpage => map_pageMessages (hexempt page hpage)
      fun n hn => hpageNumbers n (List.mem_flatMap.2 ⟨page, hpage, hn⟩)
  rw [draft, if_neg (mt List.isEmpty_iff.1 hpages), writeInteger_of_writable hsize,
    List.map_append, List.map_append, hdetails, map_summaryMessages hsummary, ← List.map_append]
  rfl

/-! ## Line feeds -/

/-- The word for a kind of findings is one line. -/
theorem newline_not_mem_kindName (kind : FindingKind) : '\n' ∉ kind.name := by
  cases kind <;> decide

/-- The lines about a finding are lines. -/
theorem newline_not_mem_findingLines {f : Finding} (h : f.OneLine) :
    ∀ line ∈ findingLines f, '\n' ∉ line := by
  have hfinding : '\n' ∉ findingLine f := by
    have hkind := newline_not_mem_kindName f.kind
    have hplace : '\n' ∉ f.place := f.not_mem_place (by decide) (by decide) h.file
    refine List.not_mem_append (List.not_mem_append ?_ (by decide)) h.message
    exact List.not_mem_append (List.not_mem_append (List.not_mem_append (by decide) hkind)
      (by decide)) hplace
  have hvalue : '\n' ∉ valueLine f := List.not_mem_append (by decide) h.value
  rw [findingLines]
  split
  · exact List.forall_mem_singleton.2 hfinding
  · exact List.forall_mem_cons.2 ⟨hfinding, List.forall_mem_singleton.2 hvalue⟩

/-- The line about a page is a line. -/
theorem newline_not_mem_statusLine {page : PageResult} (h : page.OneLine) :
    '\n' ∉ statusLine page := by
  have hsuffix : '\n' ∉ (page.exemptReason.map exemptSuffix).getD [] := by
    cases hreason : page.exemptReason with
    | none => exact List.not_mem_nil
    | some reason =>
      rw [Option.map_some, Option.getD_some]
      exact not_mem_exemptSuffix (by decide) (h.reason reason hreason)
  rw [statusLine]
  split
  · simp [h.name, hsuffix]
  · simp [h.name, newline_not_mem_ofNat]

/-- The lines about a page are lines. -/
theorem newline_not_mem_pageLines {page : PageResult} (h : page.OneLine) :
    ∀ line ∈ pageLines page, '\n' ∉ line := by
  intro line hline
  rw [pageLines, List.mem_cons, List.mem_append, List.mem_flatMap] at hline
  rcases hline with rfl | ⟨f, hf, hline⟩ | hblank
  · exact newline_not_mem_statusLine h
  · exact newline_not_mem_findingLines (h.findings f hf) line hline
  · split at hblank
    · rw [List.mem_singleton.1 hblank]
      exact List.not_mem_nil
    · exact absurd hblank List.not_mem_nil

/-- The lines that sum a run up are lines. -/
theorem newline_not_mem_summaryLines (result : RunResult) :
    ∀ line ∈ summaryLines result, '\n' ∉ line := by
  have hsummary : '\n' ∉ summaryLine result := by
    rw [summaryLine]
    split
    · simp [newline_not_mem_ofNat]
    · simp [newline_not_mem_ofNat]
  have hclosing : '\n' ∉ closingLine result := by
    rw [closingLine]
    split
    · decide
    · decide
  have hrule : '\n' ∉ List.replicate ruleWidth '─' := by decide
  simp [summaryLines, hsummary, hclosing, hrule]

/-- **The whole report**, line by line. -/
theorem lines_human {result : RunResult} (fileKind : Text) (hpages : result.pages ≠ [])
    (hexempt : ∀ page ∈ result.pages, page.exemptReason ≠ none → page.findings = [])
    (hone : ∀ page ∈ result.pages, page.OneLine) (hnumbers : ∀ n ∈ numbers result, Writable n) :
    lines (write false (human result fileKind).messages).out = reportLines result := by
  obtain ⟨-, hlines⟩ := told_of_map_line (map_draft fileKind hpages hexempt hnumbers)
  have hfeeds : ∀ written ∈ (human result fileKind).messages.map line, '\n' ∉ written := by
    rw [human, hlines]
    intro written hline
    simp only [List.mem_cons, List.mem_append, List.mem_flatMap] at hline
    rcases hline with rfl | rfl | ⟨page, hpage, hline⟩ | hline
    · refine List.not_mem_append (List.not_mem_append (by decide) ?_) (by decide)
      exact newline_not_mem_ofInt result.paletteSize
    · exact List.not_mem_nil
    · exact newline_not_mem_pageLines (hone page hpage) written hline
    · exact newline_not_mem_summaryLines result written hline
  rw [lines_write (isLine_of_mem_human result fileKind)
    fun message hmessage => hfeeds message.line (List.mem_map_of_mem hmessage), human, hlines,
    reportLines]
  simp only [List.cons_append, List.append_assoc]

/-! ## How lines begin -/

/-- A line begins like one about a finding. -/
def IsFinding (line : Text) : Prop := "  [".toList <+: line

/-- A line begins like one about a value. -/
def IsValue (line : Text) : Prop := "    value: ".toList <+: line

/-- A line begins with a cross. -/
def IsFailure (line : Text) : Prop := ['✗'] <+: line

/-- A line begins with a check mark or a cross. -/
def IsMarked (line : Text) : Prop := ['✓'] <+: line ∨ IsFailure line

instance : DecidablePred IsFinding := fun line => inferInstanceAs (Decidable (_ <+: line))

instance : DecidablePred IsValue := fun line => inferInstanceAs (Decidable (_ <+: line))

instance : DecidablePred IsFailure := fun line => inferInstanceAs (Decidable (_ <+: line))

instance : DecidablePred IsMarked := fun line =>
  inferInstanceAs (Decidable (['✓'] <+: line ∨ IsFailure line))

@[simp]
theorem begins_findingLine (f : Finding) :
    IsFinding (findingLine f) ∧ ¬ IsValue (findingLine f) ∧ ¬ IsMarked (findingLine f) := by
  obtain ⟨rest, hrest⟩ : ∃ rest, findingLine f = ' ' :: ' ' :: '[' :: rest := ⟨_, rfl⟩
  simp [IsFinding, IsValue, IsMarked, IsFailure, hrest]

@[simp]
theorem begins_valueLine (f : Finding) :
    ¬ IsFinding (valueLine f) ∧ IsValue (valueLine f) ∧ ¬ IsMarked (valueLine f) := by
  -- The third character is a blank, where a line about a finding has a bracket.
  obtain ⟨rest, hrest⟩ : ∃ rest, valueLine f = ' ' :: ' ' :: ' ' :: rest := ⟨_, rfl⟩
  refine ⟨?_, List.prefix_append _ _, ?_⟩
  · simp [IsFinding, hrest]
  · simp [IsMarked, IsFailure, hrest]

@[simp]
theorem begins_statusLine (page : PageResult) :
    ¬ IsFinding (statusLine page) ∧ ¬ IsValue (statusLine page) ∧ IsMarked (statusLine page) := by
  rw [statusLine]
  split
  · simp [IsFinding, IsValue, IsMarked, IsFailure]
  · simp [IsFinding, IsValue, IsMarked, IsFailure]

@[simp]
theorem begins_summaryLine (result : RunResult) :
    ¬ IsFinding (summaryLine result) ∧ ¬ IsValue (summaryLine result) ∧
      IsMarked (summaryLine result) := by
  rw [summaryLine]
  split
  · simp [IsFinding, IsValue, IsMarked, IsFailure]
  · simp [IsFinding, IsValue, IsMarked, IsFailure]

@[simp]
theorem begins_nil : ¬ IsFinding [] ∧ ¬ IsValue [] ∧ ¬ IsMarked [] := by decide

@[simp]
theorem begins_openingLine (result : RunResult) :
    ¬ IsFinding (openingLine result) ∧ ¬ IsValue (openingLine result) ∧
      ¬ IsMarked (openingLine result) := by
  obtain ⟨rest, hrest⟩ : ∃ rest, openingLine result = 'D' :: rest := ⟨_, rfl⟩
  simp [IsFinding, IsValue, IsMarked, IsFailure, hrest]

@[simp]
theorem begins_closingLine (result : RunResult) :
    ¬ IsFinding (closingLine result) ∧ ¬ IsValue (closingLine result) ∧
      ¬ IsMarked (closingLine result) := by
  rw [closingLine]
  split
  · decide
  · decide

@[simp]
theorem begins_rule :
    ¬ IsFinding (List.replicate ruleWidth '─') ∧ ¬ IsValue (List.replicate ruleWidth '─') ∧
      ¬ IsMarked (List.replicate ruleWidth '─') := by
  decide

/-- A page has a cross just if it has findings. -/
theorem isFailure_statusLine_iff (page : PageResult) :
    IsFailure (statusLine page) ↔ page.findings ≠ [] := by
  rw [statusLine]
  split
  · rename_i hnone
    simp [IsFailure, hnone]
  · rename_i hsome
    simp [IsFailure, hsome]

/-! ## Lines that begin alike -/

/-- The lines about findings that are about no value. -/
theorem filter_isFinding_findingLines (findings : List Finding) :
    (findings.flatMap findingLines).filter (IsFinding ·) = findings.map findingLine := by
  induction findings with
  | nil => rfl
  | cons f findings ih =>
    rw [List.flatMap_cons, List.filter_append, ih, findingLines]
    split <;> simp

/-- The lines about findings that are about values. -/
theorem filter_isValue_findingLines (findings : List Finding) :
    (findings.flatMap findingLines).filter (IsValue ·)
      = (findings.filter (·.value ≠ [])).map valueLine := by
  induction findings with
  | nil => rfl
  | cons f findings ih =>
    rw [List.flatMap_cons, List.filter_append, ih, findingLines]
    by_cases hvalue : f.value = [] <;> simp [hvalue]

/-- The lines about findings have no mark. -/
theorem filter_isMarked_findingLines (findings : List Finding) :
    (findings.flatMap findingLines).filter (IsMarked ·) = [] := by
  rw [List.filter_flatMap, List.flatMap_eq_nil_iff]
  intro f _
  rw [findingLines]
  split <;> simp

/-- Lines about a page that are not empty are its status or about its findings. -/
theorem filter_pageLines {p : Text → Bool} (hnil : p [] = false) (page : PageResult) :
    (pageLines page).filter p
      = [statusLine page].filter p ++ (page.findings.flatMap findingLines).filter p := by
  have hblank : (if page.exemptReason = none then [([] : Text)] else []).filter p = [] := by
    split
    · rw [List.filter_singleton, hnil]
      rfl
    · rfl
  rw [pageLines, ← List.singleton_append, List.filter_append, List.filter_append, hblank,
    List.append_nil]

/-- Pages show their findings in order. -/
theorem filter_isFinding_pageLines (pages : List PageResult) :
    (pages.flatMap pageLines).filter (IsFinding ·)
      = (pages.flatMap (·.findings)).map findingLine := by
  rw [List.filter_flatMap, List.map_flatMap]
  refine List.flatMap_congr fun page _ => ?_
  simp [filter_pageLines, filter_isFinding_findingLines]

/-- Pages show the values of their findings in order. -/
theorem filter_isValue_pageLines (pages : List PageResult) :
    (pages.flatMap pageLines).filter (IsValue ·)
      = ((pages.flatMap (·.findings)).filter (·.value ≠ [])).map valueLine := by
  rw [List.filter_flatMap, List.filter_flatMap, List.map_flatMap]
  refine List.flatMap_congr fun page _ => ?_
  simp [filter_pageLines, filter_isValue_findingLines]

/-- Pages show their status in order. -/
theorem filter_isMarked_pageLines (pages : List PageResult) :
    (pages.flatMap pageLines).filter (IsMarked ·) = pages.map statusLine := by
  rw [List.filter_flatMap, List.map_eq_flatMap]
  refine List.flatMap_congr fun page _ => ?_
  simp [filter_pageLines, filter_isMarked_findingLines]

/-! ## The whole report -/

/-- What a report shows of a result. -/
structure Accounts (result : RunResult) (report : List Text) : Prop where
  /-- There is one line for each finding, in order. -/
  findings : report.filter (IsFinding ·) = (result.pages.flatMap (·.findings)).map findingLine
  /-- There is one line for each value that is not empty, in order. -/
  values : report.filter (IsValue ·)
    = ((result.pages.flatMap (·.findings)).filter (·.value ≠ [])).map valueLine
  /-- There is one status for each page, in order, and then the summary. -/
  marks : report.filter (IsMarked ·) = result.pages.map statusLine ++ [summaryLine result]
  /-- The line about a finding, which has those about the findings before it above, is followed by
  the line about its value just if this is not empty. -/
  behindFinding : ∀ front page back before f after, result.pages = front ++ page :: back →
    page.findings = before ++ f :: after → ∃ above next below,
      report = above ++ findingLine f :: next :: below ∧
      above.filter (IsFinding ·) = (front.flatMap (·.findings) ++ before).map findingLine ∧
      (IsValue next ↔ f.value ≠ []) ∧ (f.value ≠ [] → next = valueLine f)
  /-- The lines about a page, which have the statuses of the pages before it above, are followed by
  an empty line just if the page was scanned. -/
  behindPage : ∀ front page back, result.pages = front ++ page :: back → ∃ above next below,
    report = above ++ statusLine page :: (page.findings.flatMap findingLines ++ next :: below) ∧
    above.filter (IsMarked ·) = front.map statusLine ∧ (next = [] ↔ page.exemptReason = none)
  /-- The number of findings is the number of lines about them. -/
  total : result.totalFindings = (report.filter (IsFinding ·)).length
  /-- The number of failing pages is the number of crosses above the summary. -/
  failing : result.failing.length
    = ((report.filter (IsMarked ·)).dropLast.filter (IsFailure ·)).length

variable {result : RunResult}

/-- The report above and below one of its pages. -/
theorem reportLines_eq_append {front back : List PageResult} {page : PageResult}
    (h : result.pages = front ++ page :: back) :
    reportLines result = openingLine result :: [] :: front.flatMap pageLines ++
      (pageLines page ++ (back.flatMap pageLines ++ (summaryLines result ++ [[]]))) := by
  simp only [reportLines, h, List.flatMap_append, List.flatMap_cons, List.cons_append,
    List.append_assoc]

/-- What follows a finding without a value is about no value. -/
theorem exists_behind_finding (after : List Finding) (rest : List Text) :
    ∃ next below, after.flatMap findingLines ++ [] :: rest = next :: below ∧ ¬ IsValue next := by
  cases after with
  | nil => exact ⟨[], rest, rfl, by simp⟩
  | cons g after => exact ⟨findingLine g, _, rfl, by simp⟩

/-- What follows an exempt page is a status or the summary. -/
theorem exists_behind_exempt (back : List PageResult) (result : RunResult) (rest : List Text) :
    ∃ next below, back.flatMap pageLines ++ (summaryLines result ++ rest) = next :: below ∧
      next ≠ [] := by
  cases back with
  | nil => exact ⟨_, _, rfl, by decide⟩
  | cons page back =>
    refine ⟨statusLine page, _, rfl, fun hnil => ?_⟩
    have hmarked := (begins_statusLine page).2.2
    rw [hnil] at hmarked
    exact begins_nil.2.2 hmarked

/-- **Behind a finding** stands its value if it has one, and a line about no value otherwise. -/
theorem reportLines_behindFinding (hexempt : ∀ page ∈ result.pages,
      page.exemptReason ≠ none → page.findings = [])
    {front back : List PageResult} {page : PageResult} {before after : List Finding} {f : Finding}
    (hpage : result.pages = front ++ page :: back) (hf : page.findings = before ++ f :: after) :
    ∃ above next below, reportLines result = above ++ findingLine f :: next :: below ∧
      above.filter (IsFinding ·) = (front.flatMap (·.findings) ++ before).map findingLine ∧
      (IsValue next ↔ f.value ≠ []) ∧ (f.value ≠ [] → next = valueLine f) := by
  -- A page with findings was scanned, so an empty line ends the lines about it.
  have hscanned : page.exemptReason = none := by
    by_contra hreason
    have hmem : page ∈ result.pages := hpage ▸ List.mem_append_right _ List.mem_cons_self
    rw [hexempt page hmem hreason] at hf
    exact List.append_ne_nil_of_right_ne_nil _ (List.cons_ne_nil _ _) hf.symm
  let above := openingLine result :: [] :: front.flatMap pageLines ++
    statusLine page :: before.flatMap findingLines
  let rest := back.flatMap pageLines ++ (summaryLines result ++ [[]])
  have habove : above.filter (IsFinding ·)
      = (front.flatMap (·.findings) ++ before).map findingLine := by
    simp [above, List.filter_append, filter_isFinding_pageLines, filter_isFinding_findingLines]
  have hreport : reportLines result
      = above ++ (findingLines f ++ (after.flatMap findingLines ++ [] :: rest)) := by
    simp only [reportLines_eq_append hpage, pageLines, hf, hscanned, if_true, above, rest,
      List.flatMap_append, List.flatMap_cons, List.cons_append, List.append_assoc, List.nil_append]
  rw [hreport, findingLines]
  -- A value stands below at once; without one, the next finding or the empty line does.
  by_cases hvalue : f.value = []
  · obtain ⟨next, below, hnext, hother⟩ := exists_behind_finding after rest
    rw [if_pos hvalue, hnext]
    exact ⟨above, next, below, rfl, habove, by simp [hvalue, hother], fun h => absurd hvalue h⟩
  · rw [if_neg hvalue]
    exact ⟨above, valueLine f, _, rfl, habove, by simp [hvalue], fun _ => rfl⟩

/-- **Behind the lines about a page** stands an empty one just if the page was scanned. -/
theorem reportLines_behindPage {front back : List PageResult} {page : PageResult}
    (hpage : result.pages = front ++ page :: back) :
    ∃ above next below, reportLines result
        = above ++ statusLine page :: (page.findings.flatMap findingLines ++ next :: below) ∧
      above.filter (IsMarked ·) = front.map statusLine ∧
      (next = [] ↔ page.exemptReason = none) := by
  let above := openingLine result :: [] :: front.flatMap pageLines
  have habove : above.filter (IsMarked ·) = front.map statusLine := by
    simp [above, filter_isMarked_pageLines]
  have hreport : reportLines result = above ++ statusLine page ::
      (page.findings.flatMap findingLines ++ ((if page.exemptReason = none then [[]] else []) ++
        (back.flatMap pageLines ++ (summaryLines result ++ [[]])))) := by
    simp only [reportLines_eq_append hpage, pageLines, above, List.cons_append, List.append_assoc]
  rw [hreport]
  -- The lines about a scanned page end with an empty one. Those about an exempt page do not, and
  -- what follows them is the status of the next page or the summary.
  by_cases hscanned : page.exemptReason = none
  · rw [if_pos hscanned]
    exact ⟨above, [], _, rfl, habove, by simp [hscanned]⟩
  · obtain ⟨next, below, hnext, hsome⟩ := exists_behind_exempt back result [[]]
    rw [if_neg hscanned, List.nil_append, hnext]
    exact ⟨above, next, below, rfl, habove, by simp [hscanned, hsome]⟩

/-- **The lines of a report show what a result holds.** -/
theorem accounts_reportLines (hexempt : ∀ page ∈ result.pages,
      page.exemptReason ≠ none → page.findings = []) :
    Accounts result (reportLines result) := by
  have hfindings : (reportLines result).filter (IsFinding ·)
      = (result.pages.flatMap (·.findings)).map findingLine := by
    simp [reportLines, summaryLines, List.filter_append, filter_isFinding_pageLines]
  have hmarks : (reportLines result).filter (IsMarked ·)
      = result.pages.map statusLine ++ [summaryLine result] := by
    simp [reportLines, summaryLines, List.filter_append, filter_isMarked_pageLines]
  refine ⟨hfindings, ?_, hmarks, ?_, ?_, ?_, ?_⟩
  · simp [reportLines, summaryLines, List.filter_append, filter_isValue_pageLines]
  · intro front page back before f after hpage hf
    exact reportLines_behindFinding hexempt hpage hf
  · intro front page back hpage
    exact reportLines_behindPage hpage
  · rw [hfindings, List.length_map, RunResult.totalFindings]
  · -- Without the last mark, which is that of the summary, the crosses are those of pages.
    rw [hmarks, List.dropLast_concat, List.filter_map, List.length_map, RunResult.failing]
    refine congrArg List.length (List.filter_congr fun page _ => ?_)
    by_cases hnone : page.findings = []
    · simp [isFailure_statusLine_iff, PageResult.passed, hnone]
    · simp [isFailure_statusLine_iff, PageResult.passed, hnone]

/-- **The report for a reader loses nothing and doubles nothing**, if no text holds a line feed, no
page is both exempt and at fault, and no number that it shows has too many digits. If one has, the
report ends before it. -/
theorem accounts_human (fileKind : Text) (hpages : result.pages ≠ [])
    (hexempt : ∀ page ∈ result.pages, page.exemptReason ≠ none → page.findings = [])
    (hone : ∀ page ∈ result.pages, page.OneLine) :
    ((∀ n ∈ numbers result, Writable n) → (human result fileKind).stop? = none ∧
      Accounts result (lines (write false (human result fileKind).messages).out)) ∧
    ((∃ n ∈ numbers result, ¬ Writable n) → (human result fileKind).stop? = some .tooLong) := by
  rw [stop?_human]
  refine ⟨fun hnumbers => ⟨firstUnwritten?_eq_none_iff.2 hnumbers, ?_⟩,
    firstUnwritten?_eq_some_iff.2⟩
  rw [lines_human fileKind hpages hexempt hone hnumbers]
  exact accounts_reportLines hexempt

/-- An exempt page, a page without findings, and a page with two, one of which has no value. -/
theorem accounts_human_three_pages :
    let f : Finding := ⟨['c'], 3, .rgbColor, [], ['m']⟩
    let g : Finding := ⟨['c'], 0, .missingFont, ['F'], ['n']⟩
    let result : RunResult :=
      ⟨7, [⟨['a'], [], some ['r']⟩, ⟨['b'], [], none⟩, ⟨['c'], [f, g], none⟩]⟩
    let report := lines (write false (human result "HTML".toList).messages).out
    Accounts result report ∧
      report.filter (IsMarked ·) = ["✓ a (exempt — r)", "✓ b", "✗ c — 2 violation(s):",
        "✗ 2 violation(s) in 1 file(s)"].map String.toList ∧
      report.filter (IsFinding ·) = ["  [RGB_COLOR] c:3 → m", "  [MISSING_FONT] c → n"].map
        String.toList := by
  intro f g result report
  have hf : f.OneLine := ⟨by decide, by decide, by decide⟩
  have hg : g.OneLine := ⟨by decide, by decide, by decide⟩
  have hone : ∀ page ∈ result.pages, page.OneLine := by
    intro page hpage
    simp only [result, List.mem_cons, List.not_mem_nil, or_false] at hpage
    rcases hpage with rfl | rfl | rfl
    · exact ⟨by decide, by decide, List.forall_mem_nil _⟩
    · exact ⟨by decide, by simp, List.forall_mem_nil _⟩
    · exact ⟨by decide, by simp, List.forall_mem_cons.2 ⟨hf, List.forall_mem_singleton.2 hg⟩⟩
  have hnumbers : ∀ n ∈ numbers result, Writable n := by
    have hsmall : ∀ n ∈ numbers result, n.natAbs ≤ maxDigits := by decide
    exact fun n hn => writable_of_natAbs_le (hsmall n hn)
  obtain ⟨-, haccounts⟩ := (accounts_human "HTML".toList (by decide) (by decide) hone).1 hnumbers
  refine ⟨haccounts, haccounts.marks.trans ?_, haccounts.findings.trans ?_⟩
  · decide
  · decide

/-- A palette whose size has too many digits leaves nothing of the report about a page. -/
theorem not_accounts_human_of_overlong_palette :
    let result : RunResult := ⟨tenTo maxDigits, [⟨"a.html".toList, [], none⟩]⟩
    (∀ page ∈ result.pages, page.exemptReason ≠ none → page.findings = []) ∧
      (∀ page ∈ result.pages, page.OneLine) ∧
      human result "HTML".toList = ⟨[], some .tooLong⟩ ∧
      ¬ Accounts result (lines (write false (human result "HTML".toList).messages).out) := by
  intro result
  have hhuman : human result "HTML".toList = ⟨[], some .tooLong⟩ := by
    rw [human, draft, writeInteger_of_not_writable not_writable_tenTo]
    rfl
  refine ⟨List.forall_mem_singleton.2 fun _ => rfl, List.forall_mem_singleton.2
    ⟨by decide, by simp, List.forall_mem_nil _⟩, hhuman, fun haccounts => ?_⟩
  have hmarks := congrArg List.length haccounts.marks
  rw [hhuman] at hmarks
  cases hmarks

end Report

end DesignLint
