import DesignLint.Config.OfMapping
import DesignLint.Files.Tree
import DesignLint.Yaml.Document

/-! # Configuration files

`Config.load reader tree root path?` loads the configuration of a run with a reader of YAML files:
from the file at a given path, which must exist, or from the file with the usual name in the root
directory, if there is one. Without a file, and from a file without content, the defaults hold. -/

namespace DesignLint

/-- Why a configuration cannot be loaded. -/
inductive LoadError where
  /-- There is no file at the given path. -/
  | notFound (path : Text)
  /-- The path cannot be looked up. -/
  | access (cause : AccessError)
  /-- The file cannot be read as YAML. -/
  | unreadable (name : Text) (fault : Yaml.Fault)
  /-- The file holds no mapping. -/
  | notMapping (name : Text)
  /-- The mapping is no configuration. -/
  | config (cause : ConfigError)
  deriving Repr, DecidableEq

namespace LoadError

/-- The text of an error; none if the error has no fixed words. -/
def message? : LoadError → Option Text
  | notFound path => some ("Config file not found: ".toList ++ path)
  | access cause => some cause.message
  | unreadable name (.malformed explanation) =>
    some ("Invalid YAML in ".toList ++ name ++ ": ".toList ++ explanation)
  | unreadable _ fault => some fault.message
  | notMapping name => some (name ++ " must contain a mapping at top level".toList)
  | config cause => cause.message?

/-- Whether an error is a complaint about the configuration, and not a failure to load one. -/
def isComplaint : LoadError → Bool
  | notFound _ | unreadable _ (.malformed _) | notMapping _ => true
  | access _ | unreadable .. => false
  | config cause => cause.isComplaint

end LoadError

/-- Where a configuration comes from. -/
inductive ConfigOrigin where
  /-- Nowhere: there is no file with the usual name. -/
  | defaults
  /-- From a file without content. -/
  | emptyFile
  /-- From the settings in a file. -/
  | file (path : Path)
  deriving Repr, DecidableEq

namespace Config

/-- The usual name of a configuration file. -/
def fileName : Text := "stylegate.yaml".toList

/-- The path of the file to load from; none if the defaults hold. -/
def locate (tree : FileTree) (root : Path) (path? : Option Path) :
    Except LoadError (Option Path) := do
  match path? with
  | none =>
    let path := root.join (.ofText fileName)
    if ← (tree.isFile path).mapError .access then return some path else return none
  | some path =>
    if ← (tree.isFile path).mapError .access then return some path
    else throw (.notFound path.text)

/-- What the file at a path holds. -/
def documentAt (reader : Yaml.Reader) (tree : FileTree) (path : Path) :
    Except LoadError Yaml.Document := do
  let bytes ← (tree.read path).mapError .access
  (reader bytes).mapError (.unreadable path.name)

/-- The settings of a run and where they come from, before they are judged. -/
def settings (reader : Yaml.Reader) (tree : FileTree) (root : Path) (path? : Option Path) :
    Except LoadError (ConfigOrigin × List (Value × Value)) := do
  match ← locate tree root path? with
  | none => return (.defaults, [])
  | some path =>
    match ← documentAt reader tree path with
    | .empty => return (.emptyFile, [])
    | .mapping entries => return (.file path, entries)
    | .other => throw (.notMapping path.name)

/-- The configuration of a run. -/
def load (reader : Yaml.Reader) (tree : FileTree) (root : Path) (path? : Option Path) :
    Except LoadError Config := do
  let (_, entries) ← settings reader tree root path?
  (ofMapping entries).mapError .config

end Config

end DesignLint
