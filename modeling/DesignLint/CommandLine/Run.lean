import DesignLint.CommandLine.Basic
import DesignLint.Event
import DesignLint.Report.Document
import DesignLint.Report.Human

/-! # Running the program

`CommandLine.run libraries tree color args` is what the program does with its arguments in a file
tree: an exit code and what it writes. A run either reports on the pages or complains in one line.
Failures that are neither a report nor a complaint escape. -/

namespace DesignLint.CommandLine

/-- What the program leaves to the libraries that it is built on. -/
structure Libraries where
  /-- Reads YAML files. -/
  yaml : Yaml.Reader
  /-- Whether the mark behind which there are no options counts as nothing where it is written as
  the value of an option. -/
  dropsSeparator : Bool

/-- What the program leaves behind. -/
structure Outcome where
  /-- The exit code. -/
  code : Nat
  /-- What is written to the two streams. -/
  output : Output
  deriving Repr, DecidableEq

/-- Why a run ends without a report. -/
inductive RunError where
  /-- The root directory has no path. -/
  | root (cause : AccessError)
  /-- The path of the configuration file is nothing. -/
  | noConfigPath
  /-- The configuration cannot be loaded. -/
  | load (cause : LoadError)
  /-- The directory cannot be linted. -/
  | lint (cause : LintError)
  /-- The report cannot be written. -/
  | report (cause : Numeral.Unwritable)
  deriving Repr, DecidableEq

namespace RunError

/-- The text of an error; none if the error has no fixed words. -/
def message? : RunError → Option Text
  | root cause => some cause.message
  | noConfigPath => some "'list' object has no attribute 'is_file'".toList
  | load cause => cause.message?
  | lint cause => some cause.message
  | report cause => some cause.message

/-- The complaint that an error is written as; none if it escapes. -/
def complaint? : RunError → Option Text
  | load cause => if cause.isComplaint then cause.message? else none
  | lint (.tokenSourceMissing name) => some (LintError.tokenSourceMissing name).message
  | lint (.unreadable name cause) => some (LintError.unreadable name cause).message
  | root _ | noConfigPath | lint (.access _) | lint (.check _) | report _ => none

end RunError

/-- How the arguments are shown in short. -/
def usage : Text :=
  ("usage: stylegate [-h] [--version] [--root ROOT] [--config CONFIG] [--json]\n" ++
   "                 [--no-color] [-v]\n").toList

/-- The help behind the usage. -/
def helpBody : Text :=
  ("\nCheck HTML prototypes against the design-token palette\n\n" ++
   "options:\n" ++
   "  -h, --help       show this help message and exit\n" ++
   "  --version        show program's version number and exit\n" ++
   "  --root ROOT      Directory holding styles.css and the prototypes (default:\n" ++
   "                   current directory)\n" ++
   "  --config CONFIG  YAML configuration file (default: <root>/stylegate.yaml if\n" ++
   "                   present)\n" ++
   "  --json           Output the report as JSON\n" ++
   "  --no-color       Disable colored output\n" ++
   "  -v, --verbose    Enable debug logging\n\n" ++
   "Exit codes:\n" ++
   "  0   every non-exempt prototype is clean\n" ++
   "  1   violations found, or the token stylesheet is missing\n\n" ++
   "Examples:\n" ++
   "  stylegate                      # Lint the current directory\n" ++
   "  stylegate --root prototypes    # Lint another directory\n" ++
   "  stylegate --json > report.json # Machine-readable report\n" ++
   "        \n").toList

/-- The line with the version. -/
def versionLine : Text := "stylegate 0.1.0\n".toList

/-- The exit code for arguments that are refused. -/
def usageCode : Nat := 2

/-- The outcome for arguments that are refused. -/
def refused (e : UsageError) : Outcome :=
  ⟨usageCode, ⟨[], usage ++ "stylegate: error: ".toList ++ e.message ++ ['\n']⟩⟩

/-- The kind of the pages in the report: the extension without its points, in upper case. -/
def fileKind (extension : Text) : Text :=
  match Text.upper (extension.dropWhile (· == '.')) with
  | [] => "matching".toList
  | kind => kind

/-- What is written of a report, if the whole report is told. -/
def written (color : Bool) (telling : Report.Telling) : Except Numeral.Unwritable Output :=
  match telling.stop? with
  | none => .ok (Message.write color telling.messages)
  | some cause => .error cause

/-- The report about a run. -/
def report (options : Options) (color : Bool) (config : Config) (result : RunResult) :
    Except Numeral.Unwritable Output :=
  if options.json then (fun document => ⟨document ++ ['\n'], []⟩) <$> Report.json result
  else written color (Report.human result (fileKind config.extension))

/-- The path that the value of an option stands for; none if it counts as nothing. -/
def pathOf? (libraries : Libraries) (value : Text) : Option Path :=
  if libraries.dropsSeparator && value = ['-', '-'] then none else some (.ofText value)

/-- The root directory. -/
def rootPath (libraries : Libraries) (tree : FileTree) (options : Options) : Except RunError Path :=
  (tree.resolve ((options.root.bind (pathOf? libraries)).getD (.ofText []))).mapError .root

/-- The path of the configuration file, if one is given. -/
def configPath (libraries : Libraries) (options : Options) : Except RunError (Option Path) :=
  match options.config with
  | none => .ok none
  | some value =>
    match pathOf? libraries value with
    | some path => .ok (some path)
    | none => .error .noConfigPath

/-- The configuration and the result of a lint run. -/
def result (libraries : Libraries) (tree : FileTree) (options : Options) :
    Except RunError (Config × RunResult) := do
  let root ← rootPath libraries tree options
  let path? ← configPath libraries options
  let config ← (Config.load libraries.yaml tree root path?).mapError .load
  let result ← (Lint.run tree root config Registry.builtin.checks).mapError .lint
  return (config, result)

/-- What happens in a lint run. -/
def events (libraries : Libraries) (tree : FileTree) (options : Options) : List Event :=
  match rootPath libraries tree options, configPath libraries options with
  | .ok root, .ok path? =>
    Config.events libraries.yaml tree root path? ++
      match Config.load libraries.yaml tree root path? with
      | .ok config => Lint.events tree root config Registry.builtin.checks
      | .error _ => []
  | _, _ => []

/-- What a lint run tells on its way, if it is asked to. -/
def log (libraries : Libraries) (tree : FileTree) (options : Options) : Output :=
  if options.verbose then ⟨[], (events libraries tree options).flatMap Event.line⟩ else {}

/-- The exit code and the report of a lint run. -/
def reply (libraries : Libraries) (tree : FileTree) (color : Bool) (options : Options) :
    Except RunError Outcome := do
  let (config, result) ← result libraries tree options
  let output ← (report options color config result).mapError .report
  return ⟨result.exitCode, output⟩

/-- The outcome of a lint run. -/
def lint (libraries : Libraries) (tree : FileTree) (color : Bool) (options : Options) :
    Except RunError Outcome :=
  let color := color && !options.noColor
  match reply libraries tree color options with
  | .ok outcome => .ok { outcome with output := log libraries tree options ++ outcome.output }
  | .error e =>
    match e.complaint? with
    | some complaint =>
      .ok ⟨1, log libraries tree options ++ (Message.error complaint).output color⟩
    | none => .error e

/-- The outcome of the program in a file tree, with colour on or off at the start. -/
def run (libraries : Libraries) (tree : FileTree) (color : Bool) (args : List Text) :
    Except RunError Outcome :=
  match parse args with
  | .error e => .ok (refused e)
  | .ok .help => .ok ⟨0, ⟨usage ++ helpBody, []⟩⟩
  | .ok .version => .ok ⟨0, ⟨versionLine, []⟩⟩
  | .ok (.lint options) => lint libraries tree color options

end DesignLint.CommandLine
