import DesignLint.Check.Basic

/-! # Inline styles

The check of `style="…"` attributes. Every attribute of a page is inspected by five rules:

* colours outside the palette;
* the first `rgb()` or `rgba()` call;
* the first font family, box shadow and border radius, unless the attribute holds a `var(`
  anywhere.

The main definitions are `InlineStyle.styleAttribute`, the pattern of an attribute, and
`InlineStyle.valueFindings`, the findings about one value. -/

namespace DesignLint.InlineStyle

open Text

/-- Reads the name `style` in any letter case, `=`, and a value in double quotes, with blanks
around the `=`; the value is what stands between the quotes. -/
def styleAttribute : Pattern Text := fun s => do
  let s ← after? anyCase "style".toList s
  let s ← after? exactly ['='] (dropBlanks s)
  let s ← after? exactly ['"'] (dropBlanks s)
  let rest ← after? exactly ['"'] (s.dropWhile (· != '"'))
  pure (s.takeWhile (· != '"'), rest)

/-- The part of `s` in front of its suffix `rest`. -/
def upTo (s rest : Text) : Text := s.take (s.length - rest.length)

/-- Reads an `rgb(` or `rgba(` call with at least one character in its parentheses; the value is
the whole call. -/
def rgbCall : Pattern Text := fun s => do
  let afterName ← after? exactly "rgb".toList s
  let afterName := (after? exactly ['a'] afterName).getD afterName
  let arguments ← after? exactly ['('] (dropBlanks afterName)
  if (arguments.takeWhile (· != ')')).isEmpty then none
  let rest ← after? exactly [')'] (arguments.dropWhile (· != ')'))
  pure (upTo s rest, rest)

/-- A declaration in a style attribute. -/
structure Declaration where
  /-- The declaration from its property name on, without the semicolon. -/
  whole : Text
  /-- What stands behind the colon. -/
  value : Text
  deriving Repr, DecidableEq

/-- Reads a declaration of `property`: the name, blanks, a colon and at least one character up to
the next semicolon or the end. -/
def declaration (property : Text) : Pattern Declaration := fun s => do
  let afterName ← after? exactly property s
  let afterColon ← after? exactly [':'] (dropBlanks afterName)
  let value := afterColon.takeWhile (· != ';')
  if value.isEmpty then none
  let rest := afterColon.dropWhile (· != ';')
  pure (⟨upTo s rest, value⟩, rest)

/-- The radii that never need a token. -/
def allowedRadii : List Text := ["0", "50%", "0px"].map String.toList

/-- The colours of a style value that the palette lacks. -/
def colorFindings (page : Page) (style : Text) (line : Int) : List Finding :=
  ((HexColor.literals style).filter (!page.palette.allows ·)).map fun color =>
    page.finding line .unknownColor color
      ("Hardcoded color ".toList ++ color ++ " not in design system palette".toList)

/-- The first `rgb` call of a style value. -/
def rgbFindings (page : Page) (style : Text) (line : Int) : List Finding :=
  ((find? rgbCall style).map fun call =>
    page.finding line .rgbColor call
      "Use CSS custom properties instead of rgb/rgba".toList).toList

/-- The first font family of a style value. -/
def fontFindings (page : Page) (style : Text) (line : Int) : List Finding :=
  ((find? (declaration "font-family".toList) style).map fun font =>
    page.finding line .hardcodedFont font.whole
      "Font should come from styles.css, not inline".toList).toList

/-- The first box shadow of a style value. -/
def shadowFindings (page : Page) (style : Text) (line : Int) : List Finding :=
  ((find? (declaration "box-shadow".toList) style).map fun shadow =>
    page.finding line .hardcodedShadow shadow.whole
      "Use var(--shadow-sm/md/lg) instead of hardcoded shadow".toList).toList

/-- The first border radius of a style value, unless it needs no token. -/
def radiusFindings (page : Page) (style : Text) (line : Int) : List Finding :=
  match find? (declaration "border-radius".toList) style with
  | none => []
  | some radius =>
    if strip radius.value ∈ allowedRadii then []
    else [page.finding line .hardcodedRadius radius.whole
      "Use var(--radius-sm/md/lg/xl/full) instead".toList]

/-- Whether a style value refers to a custom property anywhere. -/
def usesToken (style : Text) : Bool := occurs "var(".toList style

/-- The findings about one style value, rule by rule. -/
def valueFindings (page : Page) (style : Text) (line : Int) : List Finding :=
  colorFindings page style line ++ rgbFindings page style line ++
    if usesToken style then []
    else fontFindings page style line ++ shadowFindings page style line ++
      radiusFindings page style line

/-- The findings about every style attribute of a page, each at the line where it begins. -/
def findings (page : Page) : List Finding :=
  (findAll styleAttribute page.text).flatMap fun found =>
    valueFindings page found.value (lineAt page.text found.offset)

/-- The check of style attributes. -/
def check : Check where
  name := "inline-style".toList
  category := "inline".toList
  typeName := "InlineStyleValidator".toList
  inspect page := .ok (findings page)

end DesignLint.InlineStyle
