import DesignLint.Text.Basic
import DesignLint.Text.CaseTable
import DesignLint.Text.SigmaContext

/-! # Letter case

Full upper-casing and lower-casing of texts. One character may become several (`ß` becomes `SS`).
Upper-casing is character by character; so is lower-casing but for the capital sigma. -/

namespace DesignLint.Text

/-- The characters to which runs and expansions map a character beyond ASCII. -/
def mapCase (runs : List CaseRun) (expansions : List (Nat × List Nat)) (c : Char) : Text :=
  match runs.findSome? (·.image? c.toNat) with
  | some n => [Char.ofNat n]
  | none =>
    match expansions.lookup c.toNat with
    | some ns => ns.map Char.ofNat
    | none => [c]

/-- The upper-case form of a character. -/
def upperChar (c : Char) : Text :=
  if c.toNat < 0x80 then [c.toUpper] else mapCase upperRuns upperExpansions c

/-- The upper-case form of a text. -/
def upper (s : Text) : Text := s.flatMap upperChar

/-- The lower-case form of a character, apart from its neighbours. -/
def lowerChar (c : Char) : Text :=
  if c.toNat < 0x80 then [c.toLower] else mapCase lowerRuns lowerExpansions c

/-- The lower-case form of a text behind `before`, the nearest character of which comes first. The
capital sigma has a form of its own at the end of a word. -/
def lowerFrom (before : Text) : Text → Text
  | [] => []
  | c :: s =>
    (if c = 'Σ' then [if meetsCased before && !meetsCased s then 'ς' else 'σ'] else lowerChar c) ++
      lowerFrom (c :: before) s

/-- The lower-case form of a text. -/
def lower (s : Text) : Text := lowerFrom [] s

end DesignLint.Text
