import DesignLint.Config.Load
import DesignLint.Lint

/-! # Events of a run

What a verbose run tells on its way, line by line:

* `Config.events`: where the configuration comes from;
* `Lint.events`: the palette, the pages, and what the checks find. -/

namespace DesignLint

/-- Something that a verbose run tells. -/
inductive Event where
  /-- There is no configuration file in the root directory. -/
  | configMissing (root : Path)
  /-- Settings are read from a file. -/
  | configLoaded (path : Path)
  /-- The stylesheet has no `:root` block. -/
  | rootBlockMissing
  /-- The palette is complete. -/
  | paletteRead (size : Nat) (path : Path)
  /-- The pages are listed. -/
  | pagesFound (count : Nat) (extension : Text) (root : Path)
  /-- A page is exempt. -/
  | pageSkipped (page reason : Text)
  /-- A check has findings about a page. -/
  | checkReported (page check : Text) (count : Nat)
  deriving Repr, DecidableEq

namespace Event

/-- The level of an event and the part of the program that it is told by. -/
def origin : Event → Text
  | configMissing _ | configLoaded _ => "DEBUG stylegate.config".toList
  | rootBlockMissing | paletteRead .. => "DEBUG stylegate.tokens".toList
  | pagesFound .. => "INFO stylegate.runner".toList
  | pageSkipped .. => "DEBUG stylegate.runner".toList
  | checkReported .. => "DEBUG stylegate.scanner".toList

/-- The words for an event. -/
def text : Event → Text
  | configMissing root =>
    "No ".toList ++ Config.fileName ++ " in ".toList ++ root.text ++ ", using defaults".toList
  | configLoaded path => "Loaded configuration from ".toList ++ path.text
  | rootBlockMissing => "No :root block found; palette is the fixed neutrals only".toList
  | paletteRead size path =>
    "Extracted ".toList ++ Text.ofNat size ++ " palette colors from ".toList ++ path.text
  | pagesFound count extension root =>
    "Found ".toList ++ Text.ofNat count ++ ' ' :: extension ++ " files in ".toList ++ root.text
  | pageSkipped page reason => "Skipping ".toList ++ page ++ ": ".toList ++ reason
  | checkReported page check count =>
    page ++ ": ".toList ++ check ++ " found ".toList ++ Text.ofNat count

/-- The line for an event. -/
def line (event : Event) : Text := event.origin ++ ": ".toList ++ event.text ++ ['\n']

end Event

/-- What is told when settings from some origin are there, before they are judged. -/
def ConfigOrigin.events (root : Path) : ConfigOrigin → List Event
  | .defaults => [.configMissing root]
  | .emptyFile => []
  | .file path => [.configLoaded path]

/-- What is told while a configuration is loaded. -/
def Config.events (reader : Yaml.Reader) (tree : FileTree) (root : Path) (path? : Option Path) :
    List Event :=
  match Config.settings reader tree root path? with
  | .ok (origin, _) => origin.events root
  | .error _ => []

namespace Lint

/-- What is told about a stylesheet. -/
def paletteEvents (css : Text) (path : Path) (always : List Text) : List Event :=
  (if (Palette.rootBlock? css).isNone then [.rootBlockMissing] else []) ++
    [.paletteRead (Palette.ofStylesheet css always).size path]

/-- What is told while a page is scanned. -/
def scanEvents (page : Page) : List Check → List Event
  | [] => []
  | check :: rest =>
    match check.inspect page with
    | .error _ => []
    | .ok found =>
      (if found.isEmpty then [] else [.checkReported page.name check.name found.length]) ++
        scanEvents page rest

/-- What is told while a file is read and scanned. -/
def fileEvents (tree : FileTree) (path : Path) (palette : Palette) (config : Config)
    (checks : List Check) : List Event :=
  match readAt tree path with
  | .error _ => []
  | .ok text => scanEvents ⟨path.name, text, palette, config⟩ checks

/-- What is told about pages. Nothing is told behind a page without a result. -/
def pageEvents (tree : FileTree) (root : Path) (palette : Palette) (config : Config)
    (checks : List Check) : List Text → List Event
  | [] => []
  | name :: rest =>
    (match Exemption.reason? (Exemption.ofConfig config) name with
      | some reason => [.pageSkipped name reason]
      | none => fileEvents tree (entryPath root name) palette config checks) ++
    match pageResult tree root palette config checks name with
    | .ok _ => pageEvents tree root palette config checks rest
    | .error _ => []

/-- What is told while the pages of a directory are linted. -/
def events (tree : FileTree) (root : Path) (config : Config) (checks : List Check) :
    List Event :=
  let path := tokenSourcePath root config
  match tokenSourceAt tree path with
  | .error _ => []
  | .ok css =>
    paletteEvents css path config.alwaysAllowed ++
      match candidates tree root config.extension with
      | .error _ => []
      | .ok names =>
        .pagesFound names.length config.extension root ::
          pageEvents tree root (.ofStylesheet css config.alwaysAllowed) config checks names

end Lint

end DesignLint
