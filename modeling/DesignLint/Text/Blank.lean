import DesignLint.Text.Basic

/-! # White space

The characters that count as blank, and texts without blanks at their ends. -/

namespace DesignLint.Text

/-- The blank characters as closed ranges of code points, ascending and apart. -/
def blankRanges : List (Nat × Nat) :=
  [(0x09, 0x0D), (0x1C, 0x20), (0x85, 0x85), (0xA0, 0xA0), (0x1680, 0x1680), (0x2000, 0x200A),
   (0x2028, 0x2029), (0x202F, 0x202F), (0x205F, 0x205F), (0x3000, 0x3000)]

/-- Whether a code point lies in one of some closed ranges. -/
def inRanges (ranges : List (Nat × Nat)) (n : Nat) : Bool :=
  ranges.any fun r => r.1 ≤ n && n ≤ r.2

/-- Whether a character is blank. -/
def isBlank (c : Char) : Bool := inRanges blankRanges c.toNat

/-- A text without the blanks at its head. -/
def dropBlanks (s : Text) : Text := s.dropWhile isBlank

/-- A text without the blanks at its head and at its end. -/
def strip (s : Text) : Text := (dropBlanks (dropBlanks s).reverse).reverse

end DesignLint.Text
