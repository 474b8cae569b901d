import DesignLint.Text.Basic

/-! # Paths

A path names a file from the top of the file tree or from the working directory. Empty parts and
`.` are dropped when a path is read; `..` is kept. -/

namespace DesignLint

/-- Where a path starts. -/
inductive PathStart where
  /-- At the working directory. -/
  | relative
  /-- At the top. -/
  | top
  /-- At the top, written with two slashes, which are kept. -/
  | doubleSlash
  deriving Repr, DecidableEq

/-- A path. -/
structure Path where
  /-- Where the path starts. -/
  start : PathStart
  /-- The names along the path. -/
  parts : List Text
  deriving Repr, DecidableEq

namespace Path

/-- The parts of a text between slashes. -/
def splitSlashes : Text → List Text
  | [] => [[]]
  | c :: s =>
    if c = '/' then [] :: splitSlashes s
    else match splitSlashes s with
      | [] => [[c]]
      | part :: rest => (c :: part) :: rest

/-- Reads a path. -/
def ofText (s : Text) : Path where
  start := match s.takeWhile (· == '/') with
    | [] => .relative
    | ['/', '/'] => .doubleSlash
    | _ => .top
  parts := (splitSlashes s).filter fun part => !part.isEmpty && part != ['.']

/-- The slashes at the head of a written path. -/
def startText : PathStart → Text
  | .relative => []
  | .top => ['/']
  | .doubleSlash => ['/', '/']

/-- The written form of a path; the working directory is written as a point. -/
def text (path : Path) : Text :=
  match startText path.start ++ Text.joined ['/'] path.parts with
  | [] => ['.']
  | s => s

/-- The last name along a path. -/
def name (path : Path) : Text := path.parts.getLast?.getD []

/-- The path `inner`, taken from `base` if it is relative. -/
def join (base inner : Path) : Path :=
  match inner.start with
  | .relative => ⟨base.start, base.parts ++ inner.parts⟩
  | _ => inner

/-- The parts of a path with every `..` removed together with the name before it. -/
def foldParents : (done : List Text) → List Text → List Text
  | done, [] => done.reverse
  | done, part :: rest =>
    if part = ['.', '.'] then foldParents done.tail rest else foldParents (part :: done) rest

end Path

end DesignLint
