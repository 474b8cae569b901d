import DesignLint.Exemption
import DesignLint.Files.Tree
import DesignLint.Scan

/-! # Linting a directory

A run reads the palette off the token source, lists the pages of the root directory by name, and
scans those that are not exempt:

* `Lint.paletteAt`: the palette that a stylesheet file declares;
* `Lint.candidates`: the names of the pages of a directory;
* `Lint.scanAt`: the findings about one file;
* `Lint.run`: the outcome for every page of a directory. -/

namespace DesignLint

/-- The outcome for one page. -/
structure PageResult where
  /-- The name of the page. -/
  name : Text
  /-- The findings about the page. -/
  findings : List Finding
  /-- Why the page was not read, if it is exempt. -/
  exemptReason : Option Text
  deriving Repr, DecidableEq

/-- Whether a page is exempt. -/
def PageResult.isExempt (page : PageResult) : Bool := page.exemptReason.isSome

/-- Whether there is no finding about a page. -/
def PageResult.passed (page : PageResult) : Bool := page.findings.isEmpty

/-- The outcome of a run. -/
structure RunResult where
  /-- The number of colours in the palette. -/
  paletteSize : Int
  /-- The outcome for every page, in the order of the run. -/
  pages : List PageResult
  deriving Repr, DecidableEq

namespace RunResult

/-- The number of findings about all pages. -/
def totalFindings (result : RunResult) : Nat :=
  (result.pages.flatMap (·.findings)).length

/-- The pages with findings. -/
def failing (result : RunResult) : List PageResult := result.pages.filter (!·.passed)

/-- Whether no page has findings. -/
def passed (result : RunResult) : Bool := result.failing.isEmpty

/-- The exit code of a run: 0 if it passed and 1 otherwise. -/
def exitCode (result : RunResult) : Nat := if result.passed then 0 else 1

end RunResult

/-- Why a run has no outcome. -/
inductive LintError where
  /-- The token source is not a regular file. -/
  | tokenSourceMissing (name : Text)
  /-- A file that should be read cannot be. -/
  | unreadable (name : Text) (cause : AccessError)
  /-- A path cannot be looked up. -/
  | access (cause : AccessError)
  /-- A check gave no result. -/
  | check (cause : CheckFailure)
  deriving Repr, DecidableEq

/-- The text of an error. -/
def LintError.message : LintError → Text
  | tokenSourceMissing name => name ++ " not found".toList
  | unreadable name cause => "could not read ".toList ++ name ++ ": ".toList ++ cause.message
  | access cause => cause.message
  | check cause => cause.message

/-- A failure to read the file `name`. A path that no file system allows is not a matter of the
file. -/
def LintError.ofRead (name : Text) : AccessError → LintError
  | .nullByte => access .nullByte
  | cause => unreadable name cause

namespace Lint

/-- The text of the file to which a path leads. -/
def readAt (tree : FileTree) (path : Path) : Except LintError Text :=
  ((tree.read path).map Utf8.readPage).mapError (.ofRead path.name)

/-- The text of the stylesheet to which a path leads. -/
def tokenSourceAt (tree : FileTree) (path : Path) : Except LintError Text := do
  if ← (tree.isFile path).mapError .access then readAt tree path
  else throw (.tokenSourceMissing path.name)

/-- The palette that the stylesheet to which a path leads declares. -/
def paletteAt (tree : FileTree) (path : Path) (always : List Text) : Except LintError Palette := do
  return .ofStylesheet (← tokenSourceAt tree path) always

/-- The path of an entry of a directory. -/
def entryPath (root : Path) (name : Text) : Path := ⟨root.start, root.parts ++ [name]⟩

/-- The name of an entry of a directory, if it is a page. Only names that end with the extension are
looked up. -/
def page? (tree : FileTree) (root : Path) (extension name : Text) :
    Except LintError (Option Text) := do
  if extension.isSuffixOf name then
    if ← (tree.isFile (entryPath root name)).mapError .access then return some name else return none
  else return none

/-- The names of the regular files in a directory that end with an extension, in increasing order.
They are looked up in the order in which the directory lists them. -/
def candidates (tree : FileTree) (root : Path) (extension : Text) :
    Except LintError (List Text) := do
  let names ← (tree.names root).mapError .access
  return Text.sorted (← names.filterMapM (page? tree root extension))

/-- The findings about the file to which a path leads. -/
def scanAt (tree : FileTree) (path : Path) (palette : Palette) (config : Config)
    (checks : List Check) : Except LintError (List Finding) := do
  let text ← readAt tree path
  (scan ⟨path.name, text, palette, config⟩ checks).mapError .check

/-- The outcome for one page: exempt with the reason, or scanned. -/
def pageResult (tree : FileTree) (root : Path) (palette : Palette) (config : Config)
    (checks : List Check) (name : Text) : Except LintError PageResult :=
  match Exemption.reason? (Exemption.ofConfig config) name with
  | some reason => .ok ⟨name, [], some reason⟩
  | none => do
    return ⟨name, ← scanAt tree (entryPath root name) palette config checks, none⟩

/-- The path of the token source. -/
def tokenSourcePath (root : Path) (config : Config) : Path := root.join (.ofText config.tokenSource)

/-- Lints the pages of a directory. -/
def run (tree : FileTree) (root : Path) (config : Config) (checks : List Check) :
    Except LintError RunResult := do
  let palette ← paletteAt tree (tokenSourcePath root config) config.alwaysAllowed
  let names ← candidates tree root config.extension
  return ⟨palette.size, ← names.mapM (pageResult tree root palette config checks)⟩

end Lint

end DesignLint
