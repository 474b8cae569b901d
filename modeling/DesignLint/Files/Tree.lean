import DesignLint.Files.Path
import DesignLint.Text.Quoted
import DesignLint.Text.Utf8

/-! # File trees

The files that a run can see, as a value: directories, regular files and their bytes, unless these
cannot be read. Every directory can be searched and listed. Looking up a path follows it name by
name and fails at the first name that leads nowhere. -/

namespace DesignLint

/-- Why a regular file cannot be read although it is there. -/
structure ReadFailure where
  /-- The number of the failure. -/
  number : Nat
  /-- The words for the failure. -/
  words : Text
  /-- Whether the file cannot even be opened, so that its path is told. -/
  atOpening : Bool
  deriving Repr, DecidableEq

namespace ReadFailure

/-- The file may not be read. -/
def denied : ReadFailure := ⟨13, "Permission denied".toList, true⟩

/-- The device on which the file lies does not answer. -/
def damaged : ReadFailure := ⟨5, "Input/output error".toList, false⟩

end ReadFailure

/-- A file or a directory. -/
inductive Entry where
  /-- A regular file. -/
  | file (content : List UInt8)
  /-- A regular file that cannot be read. -/
  | unreadable (failure : ReadFailure)
  /-- A directory with the names of its entries. -/
  | directory (entries : List (Text × Entry))

/-- The directory without entries. -/
def Entry.empty : Entry := .directory []

/-- Whether an entry is a regular file. -/
def Entry.isFile : Entry → Bool
  | .file _ | .unreadable _ => true
  | .directory _ => false

/-- Names with entries, where `place` makes the entry with a name from the one that is there, or
from an empty directory. -/
def Entry.update (name : Text) (place : Entry → Entry) :
    List (Text × Entry) → List (Text × Entry)
  | [] => [(name, place .empty)]
  | (n, entry) :: rest =>
    if n = name then (n, place entry) :: rest else (n, entry) :: update name place rest

/-- An entry put at the end of some names below another one. Directories on the way are made, but a
file on the way stays and hides the entry; an empty directory leaves a directory as it is. -/
def Entry.place (new : Entry) : List Text → Entry → Entry
  | [], .directory old =>
    match new with
    | .directory [] => .directory old
    | new => new
  | [], .file _ | [], .unreadable _ => new
  | _ :: _, .file content => .file content
  | _ :: _, .unreadable failure => .unreadable failure
  | part :: rest, .directory entries => .directory (update part (new.place rest) entries)

/-- Everything that paths can lead to. -/
structure FileTree where
  /-- The directory at the top. -/
  top : Entry
  /-- The names from the top to the working directory. -/
  workingDirectory : List Text

/-- Why a path leads to no usable file. -/
inductive LookupFailure where
  /-- A name does not exist. -/
  | missing
  /-- A name behind a regular file. -/
  | notDirectory
  /-- A directory in the place of a regular file. -/
  | isDirectory
  /-- A name or a path that exceeds the limits of the file system. -/
  | nameTooLong
  deriving Repr, DecidableEq

/-- The number of a failure. -/
def LookupFailure.number : LookupFailure → Nat
  | missing => 2
  | notDirectory => 20
  | isDirectory => 21
  | nameTooLong => 36

/-- The words for a failure. -/
def LookupFailure.words : LookupFailure → Text
  | missing => "No such file or directory".toList
  | notDirectory => "Not a directory".toList
  | isDirectory => "Is a directory".toList
  | nameTooLong => "File name too long".toList

/-- Why a path cannot be used. -/
inductive AccessError where
  /-- The lookup of the path failed. -/
  | lookup (failure : LookupFailure) (path : Text)
  /-- The path leads to a regular file that cannot be read. -/
  | reading (failure : ReadFailure) (path : Text)
  /-- The path holds a NUL, which no file system allows. -/
  | nullByte
  deriving Repr, DecidableEq

/-- A failure of the system with its number and its words. -/
def systemFailure (number : Nat) (words : Text) : Text :=
  "[Errno ".toList ++ Text.ofNat number ++ "] ".toList ++ words

/-- The text of an access error. -/
def AccessError.message : AccessError → Text
  | lookup failure path =>
    systemFailure failure.number failure.words ++ ": ".toList ++ Text.quoted path
  | reading failure path =>
    systemFailure failure.number failure.words ++
      if failure.atOpening then ": ".toList ++ Text.quoted path else []
  | nullByte => "embedded null byte".toList

namespace FileTree

/-- The most bytes of one name. -/
def maxNameSize : Nat := 255

/-- The most bytes of a path. -/
def maxPathSize : Nat := 4095

/-- Follows names from an entry whose enclosing directories, innermost first, are `above`. The
directory above the top is the top itself. -/
def follow : (above : List Entry) → Entry → List Text → Except LookupFailure Entry
  | _, entry, [] => .ok entry
  | _, .file _, _ :: _ | _, .unreadable _, _ :: _ => .error .notDirectory
  | above, .directory entries, part :: rest =>
    if part = ['.', '.'] then
      match above with
      | [] => follow [] (.directory entries) rest
      | parent :: above => follow above parent rest
    else if maxNameSize < Utf8.size part then .error .nameTooLong
    else match entries.lookup part with
      | none => .error .missing
      | some entry => follow (.directory entries :: above) entry rest

/-- The names from the top to what a path denotes. -/
def partsFromTop (tree : FileTree) (path : Path) : List Text :=
  match path.start with
  | .relative => tree.workingDirectory ++ path.parts
  | _ => path.parts

/-- What a path leads to. -/
def lookup (tree : FileTree) (path : Path) : Except AccessError Entry :=
  if path.text.contains '\x00' then .error .nullByte
  else if maxPathSize < Utf8.size path.text then .error (.lookup .nameTooLong path.text)
  else (follow [] tree.top (tree.partsFromTop path)).mapError (.lookup · path.text)

/-- Whether a path leads to a regular file. A path that leads nowhere does not, and neither does
one with a NUL; a name that is too long is an error. -/
def isFile (tree : FileTree) (path : Path) : Except AccessError Bool :=
  match tree.lookup path with
  | .ok entry => .ok entry.isFile
  | .error (.lookup .nameTooLong path) => .error (.lookup .nameTooLong path)
  | .error _ => .ok false

/-- The bytes of the regular file to which a path leads. -/
def read (tree : FileTree) (path : Path) : Except AccessError (List UInt8) :=
  match tree.lookup path with
  | .ok (.file content) => .ok content
  | .ok (.unreadable failure) => .error (.reading failure path.text)
  | .ok (.directory _) => .error (.lookup .isDirectory path.text)
  | .error e => .error e

/-- The names of the entries of the directory to which a path leads. -/
def names (tree : FileTree) (path : Path) : Except AccessError (List Text) :=
  match tree.lookup path with
  | .ok (.directory entries) => .ok (entries.map (·.1))
  | .ok (.file _) | .ok (.unreadable _) => .error (.lookup .notDirectory path.text)
  | .error e => .error e

/-- A path from the top without `..`, whether or not it leads anywhere. -/
def resolve (tree : FileTree) (path : Path) : Except AccessError Path :=
  if path.text.contains '\x00' then .error .nullByte
  else .ok ⟨.top, Path.foldParents [] (tree.partsFromTop path)⟩

end FileTree

end DesignLint
