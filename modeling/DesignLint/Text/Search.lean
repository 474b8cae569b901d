import DesignLint.Text.Basic

/-! # Searching a text

A pattern reads one occurrence at the head of a text. The search tries a pattern at every
position from left to right and goes on behind each occurrence, so occurrences never overlap:

* `Text.findAll p s`: all occurrences of `p` with their offsets;
* `Text.find? p s`: the leftmost one;
* `Text.breakAt? p s`: the text before the leftmost occurrence and the text behind it. -/

namespace DesignLint.Text

/-- What a pattern makes of an occurrence at the head of a text, and the text behind it. -/
abbrev Pattern (α : Type) := Text → Option (α × Text)

/-- One occurrence of a pattern. -/
structure Found (α : Type) where
  /-- The number of characters before the occurrence. -/
  offset : Nat
  /-- What the pattern read there. -/
  value : α
  deriving Repr, DecidableEq

/-- The occurrences in the part of a text that starts at `offset`, where the next `skip`
characters still belong to the occurrence found before. -/
def findFrom {α : Type} (p : Pattern α) : (offset skip : Nat) → Text → List (Found α)
  | _, _, [] => []
  | offset, skip + 1, _ :: s => findFrom p (offset + 1) skip s
  | offset, 0, c :: s =>
    match p (c :: s) with
    | none => findFrom p (offset + 1) 0 s
    -- `c` is behind us already, so what is left to skip is the rest of the occurrence in `s`.
    | some (value, rest) => ⟨offset, value⟩ :: findFrom p (offset + 1) (s.length - rest.length) s

/-- The occurrences of a pattern, left to right and without overlap. -/
def findAll {α : Type} (p : Pattern α) (s : Text) : List (Found α) := findFrom p 0 0 s

/-- What the pattern reads at its leftmost occurrence. -/
def find? {α : Type} (p : Pattern α) : Text → Option α
  | [] => none
  | c :: s =>
    match p (c :: s) with
    | none => find? p s
    | some (value, _) => some value

/-- The text before the leftmost place where `next?` succeeds, and what it leaves there. -/
def breakAt? (next? : Text → Option Text) : Text → Option (Text × Text)
  | [] => (next? []).map fun rest => ([], rest)
  | c :: s =>
    match next? (c :: s) with
    | some rest => some ([], rest)
    | none => (breakAt? next? s).map fun (before, rest) => (c :: before, rest)

end DesignLint.Text
