import DesignLint.Text.DecimalDigit
import DesignLint.Text.Quoted

/-! # Command lines

`CommandLine.parse args` reads the arguments of the program. Every argument is first judged by its
form alone; options may be shortened as long as one option is meant, and options of one letter may
be strung together. Then the arguments take effect from left to right. -/

namespace DesignLint.CommandLine

/-- The options of the program. -/
inductive Flag where
  /-- Shows help. -/
  | help
  /-- Shows the version. -/
  | version
  /-- Chooses the directory to lint. -/
  | root
  /-- Chooses the configuration file. -/
  | config
  /-- Asks for the report for programs. -/
  | json
  /-- Switches colour off. -/
  | noColor
  /-- Asks for what happens on the way. -/
  | verbose
  deriving Repr, DecidableEq

namespace Flag

/-- The spellings of the options. -/
def spellings : List (Text × Flag) :=
  [("-h", help), ("--help", help), ("--version", version), ("--root", root), ("--config", config),
   ("--json", json), ("--no-color", noColor), ("-v", verbose), ("--verbose", verbose)].map
    fun (spelling, flag) => (spelling.toList, flag)

/-- The option with a spelling. -/
def ofSpelling? (spelling : Text) : Option Flag := spellings.lookup spelling

/-- Whether an option takes a value. -/
def takesValue : Flag → Bool
  | root | config => true
  | help | version | json | noColor | verbose => false

/-- All spellings of an option, as complaints show it. -/
def label (flag : Flag) : Text :=
  Text.joined ['/'] ((spellings.filter (·.2 == flag)).map (·.1))

end Flag

/-- Why arguments are refused. -/
inductive UsageError where
  /-- A shortened option could be several ones. -/
  | ambiguous (argument : Text) (spellings : List Text)
  /-- An option lacks its value. -/
  | missingValue (flag : Flag)
  /-- An option has a value that it does not take. -/
  | unwantedValue (flag : Flag) (value : Text)
  /-- Arguments that mean nothing. -/
  | unrecognized (arguments : List Text)
  deriving Repr, DecidableEq

/-- The text of a usage error. -/
def UsageError.message : UsageError → Text
  | ambiguous argument spellings =>
    "ambiguous option: ".toList ++ argument ++ " could match ".toList ++
      Text.joined ", ".toList spellings
  | missingValue flag =>
    "argument ".toList ++ flag.label ++ ": expected one argument".toList
  | unwantedValue flag value =>
    "argument ".toList ++ flag.label ++ ": ignored explicit argument ".toList ++ Text.quoted value
  | unrecognized arguments =>
    "unrecognized arguments: ".toList ++ Text.joined [' '] arguments

/-! ## Forms of arguments -/

/-- An argument by its form. -/
inductive Argument where
  /-- An option with its spelling and the value that is written together with it. -/
  | option (flag : Flag) (spelling : Text) (value : Option Text)
  /-- What looks like an option but is none. -/
  | unknown (text : Text)
  /-- Anything else. -/
  | plain (text : Text)
  /-- The mark behind which there are no options. -/
  | separator
  deriving Repr, DecidableEq

/-- A way to understand an argument as an option. -/
structure Reading where
  /-- The option. -/
  flag : Flag
  /-- Its full spelling. -/
  spelling : Text
  /-- The value that is written together with it. -/
  value : Option Text
  deriving Repr, DecidableEq

/-- A text before its first equals sign and, if there is one, the text behind it. -/
def splitValue (s : Text) : Text × Option Text :=
  match s.span (· != '=') with
  | (before, _ :: value) => (before, some value)
  | (before, []) => (before, none)

/-- The options that begin with a text. -/
def completions (s : Text) (value : Option Text) : List Reading :=
  (Flag.spellings.filter fun entry => s.isPrefixOf entry.1).map fun (spelling, flag) =>
    ⟨flag, spelling, value⟩

/-- The ways to understand an argument that is no full spelling: a shortened option, or an option of
one letter with more behind it. -/
def readings (s : Text) : List Reading :=
  match s with
  | '-' :: '-' :: _ =>
    let (start, value) := splitValue s
    completions start value
  | _ =>
    -- Behind a hyphen and a letter there may be a value or more letters.
    match Flag.ofSpelling? (s.take 2) with
    | some flag => [⟨flag, s.take 2, some (s.drop 2)⟩]
    | none => completions s none

/-- Whether a text is digits, or a point with digits behind it and maybe before it. -/
def isNumber (s : Text) : Bool :=
  let (whole, rest) := s.span Text.isDecimalDigit
  match rest with
  | [] => !whole.isEmpty
  | '.' :: fraction => !fraction.isEmpty && fraction.all Text.isDecimalDigit
  | _ => false

/-- Whether an argument is a negative number, which may end with a line feed. -/
def isNegativeNumber : Text → Bool
  | '-' :: s => isNumber (if s.getLast? = some '\n' then s.dropLast else s)
  | _ => false

/-- An argument that is no full spelling of an option and starts with a hyphen. -/
def classifyDashed (s : Text) : Except UsageError Argument :=
  let (start, value) := splitValue s
  match value, Flag.ofSpelling? start with
  | some value, some flag => .ok (.option flag start (some value))
  | _, _ =>
    match readings s with
    | [reading] => .ok (.option reading.flag reading.spelling reading.value)
    | [] => .ok (if isNegativeNumber s || s.contains ' ' then .plain s else .unknown s)
    | several => .error (.ambiguous s (several.map (·.spelling)))

/-- The form of an argument. -/
def classify (s : Text) : Except UsageError Argument :=
  match Flag.ofSpelling? s, s with
  | some flag, s => .ok (.option flag s none)
  | none, '-' :: c :: rest => classifyDashed ('-' :: c :: rest)
  | none, s => .ok (.plain s)

/-- The forms of arguments. -/
def classifyAll : List Text → Except UsageError (List Argument)
  | [] => .ok []
  | ['-', '-'] :: rest => .ok (.separator :: rest.map .plain)
  | s :: rest => do
    let first ← classify s
    return first :: (← classifyAll rest)

/-! ## Effects of arguments -/

/-- What the program is asked to do. -/
structure Options where
  /-- The written path of the directory to lint, if it is given. -/
  root : Option Text := none
  /-- The written path of the configuration file, if it is given. -/
  config : Option Text := none
  /-- Whether the report is for programs. -/
  json : Bool := false
  /-- Whether colour is switched off. -/
  noColor : Bool := false
  /-- Whether to tell what happens on the way. -/
  verbose : Bool := false
  deriving Repr, DecidableEq

/-- What arguments ask for. -/
inductive Request where
  /-- Help. -/
  | help
  /-- The version. -/
  | version
  /-- A lint run. -/
  | lint (options : Options)
  deriving Repr, DecidableEq

/-- The options behind an option with its value; help and the version end everything. -/
def Options.apply (options : Options) (flag : Flag) (value : Text) : Except Request Options :=
  match flag with
  | .help => .error .help
  | .version => .error .version
  | .root => .ok { options with root := some value }
  | .config => .ok { options with config := some value }
  | .json => .ok { options with json := true }
  | .noColor => .ok { options with noColor := true }
  | .verbose => .ok { options with verbose := true }

/-- The options that are meant by letters strung together behind one that takes no value. -/
def strung (flag : Flag) : (letters : Text) → Except UsageError (List Flag)
  | [] => .ok [flag]
  | letter :: rest =>
    match Flag.ofSpelling? ['-', letter] with
    | some following => (strung following rest).map (flag :: ·)
    | none => .error (.unwantedValue flag (letter :: rest))

/-- Whether an option is spelled with one hyphen. -/
def isShort : Text → Bool
  | '-' :: '-' :: _ => false
  | _ => true

/-- The options of an argument with a value written together with it. -/
def attached (flag : Flag) (spelling value : Text) : Except UsageError (List (Flag × Text)) :=
  if flag.takesValue then .ok [(flag, value)]
  else if isShort spelling && !value.isEmpty then (strung flag value).map (·.map fun f => (f, []))
  else .error (.unwantedValue flag value)

/-- What an option of its own takes from the arguments behind it. -/
def detached (flag : Flag) (rest : List Argument) :
    Except UsageError (List (Flag × Text) × List Argument) :=
  if flag.takesValue then
    match rest with
    | .plain value :: rest => .ok ([(flag, value)], rest)
    | _ => .error (.missingValue flag)
  else .ok ([(flag, [])], rest)

/-- The options behind several options in order. -/
def Options.applyAll (options : Options) (flags : List (Flag × Text)) : Except Request Options :=
  flags.foldlM (fun options (flag, value) => options.apply flag value) options

theorem detached_length_le {flag : Flag} {rest others : List Argument}
    {flags : List (Flag × Text)} (h : detached flag rest = .ok (flags, others)) :
    others.length ≤ rest.length := by
  unfold detached at h
  split at h
  · split at h
    · cases h; simp
    · cases h
  · cases h; exact Nat.le_refl _

/-- What arguments ask for, where `extras` are the arguments before them that mean nothing, the last
one first. -/
def effect (options : Options) (extras : List Text) : List Argument → Except UsageError Request
  | [] =>
    if extras.isEmpty then .ok (.lint options) else .error (.unrecognized extras.reverse)
  | .plain s :: rest => effect options (s :: extras) rest
  | .unknown s :: rest => effect options (s :: extras) rest
  | .separator :: rest => effect options (['-', '-'] :: extras) rest
  | .option flag spelling (some value) :: rest => do
    let flags ← attached flag spelling value
    match options.applyAll flags with
    | .error request => return request
    | .ok options => effect options extras rest
  | .option flag _ none :: rest =>
    match _taken : detached flag rest with
    | .error e => .error e
    | .ok (flags, others) =>
      match options.applyAll flags with
      | .error request => .ok request
      | .ok options => effect options extras others
  termination_by arguments => arguments.length
  decreasing_by
    all_goals simp only [List.length_cons]
    all_goals try omega
    have := detached_length_le _taken
    omega

/-- What the arguments of the program ask for. -/
def parse (args : List Text) : Except UsageError Request := do
  effect {} [] (← classifyAll args)

end DesignLint.CommandLine
