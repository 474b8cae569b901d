import DesignLint.Number.Numeral

/-! # Findings

A finding is one departure of a page from the design rules. -/

namespace DesignLint

/-- The kinds of findings. -/
inductive FindingKind where
  /-- A colour in a style attribute that the palette lacks. -/
  | unknownColor
  /-- An `rgb()` or `rgba()` call in a style attribute. -/
  | rgbColor
  /-- A font family in a style attribute. -/
  | hardcodedFont
  /-- A box shadow in a style attribute. -/
  | hardcodedShadow
  /-- A border radius in a style attribute. -/
  | hardcodedRadius
  /-- A colour in a style block that the palette lacks. -/
  | unknownColorInStyle
  /-- A required stylesheet that the page does not mention. -/
  | missingStylesheet
  /-- A brand font that the page does not mention. -/
  | missingFont
  deriving Repr, DecidableEq

/-- The word for a kind in reports. -/
def FindingKind.name : FindingKind → Text
  | unknownColor => "UNKNOWN_COLOR".toList
  | rgbColor => "RGB_COLOR".toList
  | hardcodedFont => "HARDCODED_FONT".toList
  | hardcodedShadow => "HARDCODED_SHADOW".toList
  | hardcodedRadius => "HARDCODED_RADIUS".toList
  | unknownColorInStyle => "UNKNOWN_COLOR_IN_STYLE".toList
  | missingStylesheet => "MISSING_STYLESHEET".toList
  | missingFont => "MISSING_FONT".toList

/-- All kinds of findings. -/
def FindingKind.all : List FindingKind :=
  [unknownColor, rgbColor, hardcodedFont, hardcodedShadow, hardcodedRadius, unknownColorInStyle,
   missingStylesheet, missingFont]

/-- The kind with a given word. -/
def FindingKind.ofName? (name : Text) : Option FindingKind :=
  all.find? fun kind => kind.name == name

/-- One departure of a page from the design rules. -/
structure Finding where
  /-- The name of the page. -/
  file : Text
  /-- The 1-based line, or 0 for a finding about the whole page. -/
  line : Int
  /-- The kind of departure. -/
  kind : FindingKind
  /-- The text at fault. -/
  value : Text
  /-- The explanation for a reader. -/
  message : Text
  deriving Repr, DecidableEq

/-- The page and, if the finding has a line, the line. -/
def Finding.location (f : Finding) : Except Numeral.Unwritable Text :=
  if 0 < f.line then (f.file ++ ':' :: ·) <$> Numeral.writeInteger f.line else .ok f.file

end DesignLint
