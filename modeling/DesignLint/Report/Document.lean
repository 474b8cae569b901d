import DesignLint.Json.Basic
import DesignLint.Lint

/-! # The report for programs

The outcome of a run as a JSON document. -/

namespace DesignLint.Report

/-- A finding as a document. -/
def findingDocument (f : Finding) : Json :=
  .object [("file".toList, .text f.file), ("line".toList, .int f.line),
    ("type".toList, .text f.kind.name), ("value".toList, .text f.value),
    ("message".toList, .text f.message)]

/-- The outcome for one page as a document. -/
def pageDocument (page : PageResult) : Json :=
  .object [("file".toList, .text page.name),
    ("exempt_reason".toList, match page.exemptReason with
      | some reason => .text reason
      | none => .null),
    ("violations".toList, .array (page.findings.map findingDocument))]

/-- The outcome of a run as a document. -/
def document (result : RunResult) : Json :=
  .object [("palette_size".toList, .int result.paletteSize),
    ("files".toList, .array (result.pages.map pageDocument)),
    ("total_violations".toList, .int result.totalFindings),
    ("failing_files".toList, .int result.failing.length),
    ("passed".toList, .bool result.passed)]

/-- The written document about a run. -/
def json (result : RunResult) : Except Numeral.Unwritable Text := (document result).render

end DesignLint.Report
