import DesignLint.Console
import DesignLint.Lint

/-! # The report for a reader

The outcome of a run as console messages: the size of the palette, the status of every page with
its findings, and a summary. The messages are told one after the other, up to the first that shows
a number with too many digits. -/

namespace DesignLint.Report

open Message Numeral

/-- Messages in order, some of which may turn out to have no text. -/
abbrev Draft := List (Except Unwritable Message)

/-- What is told of a draft. -/
structure Telling where
  /-- The messages that are told. -/
  messages : List Message
  /-- Why nothing more is told, if this is not all. -/
  stop? : Option Unwritable
  deriving Repr, DecidableEq

/-- The messages of a draft up to the first that has no text. -/
def told : Draft → Telling
  | [] => ⟨[], none⟩
  | .ok message :: rest => ⟨message :: (told rest).messages, (told rest).stop?⟩
  | .error cause :: _ => ⟨[], some cause⟩

/-- The messages about one finding. -/
def findingMessages (f : Finding) : Draft :=
  (fun place => detail ('[' :: f.kind.name ++ "] ".toList ++ place ++ " → ".toList ++ f.message)
      detailIndent) <$> f.location ::
    if f.value.isEmpty then [] else [.ok (dim ("value: ".toList ++ f.value) dimIndent)]

/-- How the reason of an exemption is shown behind the name of a page. -/
def exemptSuffix (reason : Text) : Text :=
  if reason.isEmpty then " (exempt)".toList else " (exempt — ".toList ++ reason ++ [')']

/-- The messages about one page. -/
def pageMessages (page : PageResult) : Draft :=
  match page.exemptReason with
  | some reason => [.ok (success (page.name ++ exemptSuffix reason))]
  | none =>
    (if page.passed then [.ok (success page.name)]
      else
        (fun count => failure (page.name ++ " — ".toList ++ count ++ " violation(s):".toList)) <$>
          writeInteger page.findings.length :: page.findings.flatMap findingMessages) ++
      [.ok (info [])]

/-- The message that sums up a run with findings. -/
def failureMessage (result : RunResult) : Except Unwritable Message := do
  let total ← writeInteger result.totalFindings
  let failing ← writeInteger result.failing.length
  return failure (total ++ " violation(s) in ".toList ++ failing ++ " file(s)".toList)

/-- The messages that sum a run up. -/
def summaryMessages (result : RunResult) : Draft :=
  [.ok rule, .ok (info [])] ++
    if result.passed then
      [(fun count => success ("ALL CLEAN — ".toList ++ count ++ " files, 0 violations".toList)) <$>
        writeInteger result.pages.length, .ok (info []),
       .ok (info "All prototypes conform to the design system.".toList)]
    else
      [failureMessage result, .ok (info []),
       .ok (info "Fix violations to ensure brand consistency.".toList)]

/-- The report about a run over files of a kind. -/
def draft (result : RunResult) (fileKind : Text) : Draft :=
  [(fun size => info ("Design system: ".toList ++ size ++ " colors in palette".toList)) <$>
    writeInteger result.paletteSize, .ok (info [])] ++
    if result.pages.isEmpty then [.ok (info ("No ".toList ++ fileKind ++ " files found.".toList))]
    else result.pages.flatMap pageMessages ++ summaryMessages result

/-- What is told about a run over files of a kind. -/
def human (result : RunResult) (fileKind : Text) : Telling := told (draft result fileKind)

end DesignLint.Report
