import DesignLint.Config.Basic
import DesignLint.Finding
import DesignLint.Palette

/-! # Checks

A check inspects one page and lists its findings. `Page` is all that a check sees. -/

namespace DesignLint

/-- What a check sees of one page. -/
structure Page where
  /-- The name under which findings are reported. -/
  name : Text
  /-- The content. -/
  text : Text
  /-- The colours that the page may use. -/
  palette : Palette
  /-- The settings of the run. -/
  config : Config

/-- A finding about a page. -/
def Page.finding (page : Page) (line : Int) (kind : FindingKind) (value message : Text) : Finding :=
  ⟨page.name, line, kind, value, message⟩

/-- Why a check gives no result. -/
inductive CheckFailure where
  /-- The check does not define how to inspect a page. -/
  | notImplemented (typeName : Text)
  deriving Repr, DecidableEq

/-- The text of a failure. -/
def CheckFailure.message : CheckFailure → Text
  | notImplemented typeName => typeName ++ " must implement validate()".toList

/-- A check that can be registered and run. -/
structure Check where
  /-- The name that identifies the check. -/
  name : Text
  /-- What the check looks at. -/
  category : Text
  /-- The kind of object that the check is, named in complaints about it. -/
  typeName : Text
  /-- The findings about a page, in order. -/
  inspect : Page → Except CheckFailure (List Finding)

end DesignLint
