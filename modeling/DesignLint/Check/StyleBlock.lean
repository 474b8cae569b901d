import DesignLint.Check.Basic

/-! # Style blocks

The check of embedded `<style>` elements: colours outside the palette, line by line. Lines that
declare custom properties and lines that open with a comment are skipped. The main definitions
are `StyleBlock.block`, the pattern of an element, and `StyleBlock.isSkipped`. -/

namespace DesignLint.StyleBlock

open Text

/-- Reads `<style` in any letter case, the rest of the tag up to the first `>`, and the body up to
the first `</style>`; the body is the value. -/
def block : Pattern Text := fun s => do
  let s ← after? anyCase "<style".toList s
  let s ← after? exactly ['>'] (s.dropWhile (· != '>'))
  breakAt? (after? anyCase "</style>".toList) s

/-- Whether a line may declare custom properties or opens with a comment. -/
def isSkipped (line : Text) : Bool :=
  (occurs "--".toList line && occurs ":".toList line) ||
    ("/*".toList.isPrefixOf (strip line) || "//".toList.isPrefixOf (strip line))

/-- The colours of one line that the palette lacks. -/
def lineFindings (page : Page) (number : Nat) (line : Text) : List Finding :=
  if isSkipped line then []
  else ((HexColor.wholeLiterals line).filter (!page.palette.allows ·)).map fun color =>
    page.finding number .unknownColorInStyle color
      ("Color ".toList ++ color ++ " in <style> block not in design system".toList)

/-- The findings about the lines of a body, whose first line has the number `number`. -/
def bodyFindings (page : Page) : (number : Nat) → List Text → List Finding
  | _, [] => []
  | number, line :: rest => lineFindings page number line ++ bodyFindings page (number + 1) rest

/-- The findings about every style block of a page. The first line of a body has the number of the
line where the block begins. -/
def findings (page : Page) : List Finding :=
  (findAll block page.text).flatMap fun found =>
    bodyFindings page (lineAt page.text found.offset) (lines found.value)

/-- The check of style blocks. -/
def check : Check where
  name := "style-block".toList
  category := "style-block".toList
  typeName := "StyleBlockValidator".toList
  inspect page := .ok (findings page)

end DesignLint.StyleBlock
