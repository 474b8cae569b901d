import DesignLint.Text.Basic

/-! # Lint configuration

The settings of a lint run and the house rules that hold where nothing else is configured. -/

namespace DesignLint

/-- A stylesheet that every page has to mention. -/
structure RequiredSheet where
  /-- The text that has to occur in a page. -/
  name : Text
  /-- What is reported about a page without it. -/
  message : Text
  deriving Repr, DecidableEq

/-- What a page that lacks the stylesheet `name` is told when no message is configured. -/
def RequiredSheet.advice (name : Text) : Text := "Must include ".toList ++ name

/-- The settings of a lint run. -/
structure Config where
  /-- The stylesheet that declares the palette, relative to the root directory. -/
  tokenSource : Text := "styles.css".toList
  /-- How the name of a page ends. -/
  extension : Text := ".html".toList
  /-- Colours that belong to every palette. -/
  alwaysAllowed : List Text :=
    ["#FFF", "#FFFFFF", "#000", "#000000", "#EEE", "#EEEEEE"].map String.toList
  /-- Names of exempt pages with the reasons. -/
  exemptFiles : List (Text × Text) := [("brandbook.html".toList, "reference page".toList)]
  /-- Beginnings of names of exempt pages with the reasons. -/
  exemptPrefixes : List (Text × Text) :=
    [("wireframe-".toList, "wireframe, no brand styles".toList)]
  /-- Stylesheets that every page has to mention. -/
  requiredSheets : List RequiredSheet :=
    [⟨"styles.css".toList, "Must include styles.css for design system tokens".toList⟩,
     ⟨"components.css".toList, "Must include components.css for shared components".toList⟩]
  /-- The brand font. -/
  requiredFont : Text := "Space Grotesk".toList
  /-- The spellings of the brand font, one of which has to occur in a page. -/
  fontSpellings : List Text := ["Space+Grotesk", "Space Grotesk"].map String.toList
  deriving Repr, DecidableEq

end DesignLint
