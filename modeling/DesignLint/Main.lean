import DesignLint.CommandLine.Run

/-! The program: looks at the files that its arguments ask about, runs the library on them, and
writes what it answers. -/

namespace DesignLint

/-- The libraries of the program: the reader of YAML files has no explanations, and every value of
an option counts. -/
def libraries : CommandLine.Libraries := ⟨Yaml.Document.reader fun _ => [], false⟩

/-- The names along a written path. -/
def namesOf (path : String) : List Text := (Path.ofText path.toList).parts

/-- The written path of some names from the top. -/
def pathOf (names : List Text) : String := String.ofList (Path.text ⟨.top, names⟩)

/-- Why a file cannot be read, as the system tells it. -/
def failureOf : IO.Error → ReadFailure
  | .permissionDenied .. => .denied
  | _ => .damaged

/-- What lies at some names from the top, if anything does: a regular file with its bytes, or a
directory, which is shown as an empty one. -/
def glance (names : List Text) : IO (Option Entry) := do
  let here := (← IO.currentDir) / pathOf names
  if ← here.isDir then return some .empty
  else if ← here.pathExists then
    try return some (.file (← IO.FS.readBinFile here).toList)
    catch e => return some (.unreadable (failureOf e))
  else return none

/-- What lies at some names from the top, where a directory is shown with what lies in it. -/
def observe (names : List Text) : IO (Option Entry) := do
  match ← glance names with
  | some (.directory _) =>
    let here := (← IO.currentDir) / pathOf names
    let mut entries : List (Text × Entry) := []
    for item in ← here.readDir do
      let name := item.fileName.toList
      if let some entry ← glance (names ++ [name]) then
        entries := entries ++ [(name, entry)]
    return some (.directory entries)
  | found => return found

/-- A file tree with what lies at the end of a path and at every directory on the way. -/
def FileTree.observed (tree : FileTree) (path : Path) : IO FileTree := do
  let names := tree.partsFromTop path
  let mut top := tree.top
  for count in List.range (names.length + 1) do
    let place := Path.foldParents [] (names.take count)
    if let some entry ← observe place then
      let entry := if count < names.length && entry matches .directory _ then Entry.empty else entry
      top := entry.place place top
  return { tree with top }

/-- A file tree with everything that the options ask about. -/
def FileTree.forOptions (tree : FileTree) (options : CommandLine.Options) : IO FileTree := do
  let .ok root := CommandLine.rootPath libraries tree options | return tree
  let .ok path? := CommandLine.configPath libraries options | return tree
  let tree ← tree.observed root
  let tree ← match path? with
    | some path => tree.observed path
    | none => pure tree
  match Config.load libraries.yaml tree root path? with
  | .ok config => tree.observed (Lint.tokenSourcePath root config)
  | .error _ => return tree

end DesignLint

/-- Lints the directory that the arguments name. -/
def main (args : List String) : IO UInt32 := do
  let args := args.map String.toList
  let here ← IO.currentDir
  let tree : DesignLint.FileTree := ⟨.empty, DesignLint.namesOf here.toString⟩
  let tree ← match DesignLint.CommandLine.parse args with
    | .ok (.lint options) => tree.forOptions options
    | _ => pure tree
  let color ← (← IO.getStdout).isTty
  match DesignLint.CommandLine.run DesignLint.libraries tree color args with
  | .ok outcome =>
    IO.print (String.ofList outcome.output.out)
    IO.eprint (String.ofList outcome.output.err)
    return UInt32.ofNat outcome.code
  | .error e =>
    IO.eprintln (String.ofList (e.message?.getD []))
    return 1
