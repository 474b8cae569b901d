import DesignLint.Check.Basic

/-! # Required assets

The checks of a whole page: it has to mention every required stylesheet and the brand font in
one of its spellings. A mention is any occurrence of the text, be it in a comment. -/

namespace DesignLint.RequiredAsset

open Text

/-- The required stylesheets that a page does not mention. -/
def sheetFindings (page : Page) : List Finding :=
  (page.config.requiredSheets.filter (!occurs ·.name page.text)).map fun sheet =>
    page.finding 0 .missingStylesheet sheet.name sheet.message

/-- The check of required stylesheets. -/
def sheetCheck : Check where
  name := "required-stylesheets".toList
  category := "document".toList
  typeName := "RequiredStylesheetValidator".toList
  inspect page := .ok (sheetFindings page)

/-- The brand font, if a page mentions none of its spellings. -/
def fontFindings (page : Page) : List Finding :=
  if page.config.fontSpellings.any (occurs · page.text) then []
  else
    let font := page.config.requiredFont
    [page.finding 0 .missingFont font
      ("Must import ".toList ++ font ++ " from Google Fonts".toList)]

/-- The check of the brand font. -/
def fontCheck : Check where
  name := "required-font".toList
  category := "document".toList
  typeName := "RequiredFontValidator".toList
  inspect page := .ok (fontFindings page)

end DesignLint.RequiredAsset
