import DesignLint.HexColor
import DesignLint.Text.Blank
import DesignLint.Text.Case

/-! # Palettes

A palette is the set of colours that pages may use. It is read off the `:root` block of a
stylesheet, which is found by pattern and not by parsing:

* `Palette.rootBlock? css`: the body of the first `:root` block that has one;
* `Palette.ofStylesheet css always`: the colours of that block together with those that are
  always allowed;
* `Palette.allows p color`: membership, whatever the letter case of `color`. -/

namespace DesignLint

open Text

/-- A set of colours in upper case. -/
structure Palette where
  /-- The members, each once. -/
  colors : List Text
  /-- No colour is listed twice. -/
  nodup : colors.Nodup

namespace Palette

/-- The palette without a colour. -/
def empty : Palette := ⟨[], List.nodup_nil⟩

/-- A palette with one more colour. -/
def insert (p : Palette) (color : Text) : Palette :=
  if h : color ∈ p.colors then p else ⟨color :: p.colors, List.nodup_cons.2 ⟨h, p.nodup⟩⟩

/-- A palette with one more colour holds that colour and those from before. -/
theorem mem_insert {p : Palette} {color other : Text} :
    other ∈ (p.insert color).colors ↔ other = color ∨ other ∈ p.colors := by
  unfold insert
  split
  · rename_i h
    exact ⟨.inr, fun ho => ho.elim (fun e => e ▸ h) id⟩
  · exact List.mem_cons

/-- The palette of some colours, taken as they are written. -/
def ofList (colors : List Text) : Palette := colors.foldl insert empty

/-- The palette of some colours holds just these. -/
theorem mem_ofList {colors : List Text} {color : Text} :
    color ∈ (ofList colors).colors ↔ color ∈ colors := by
  have step (p : Palette) : color ∈ (colors.foldl insert p).colors ↔
      color ∈ p.colors ∨ color ∈ colors := by
    induction colors generalizing p with
    | nil => simp
    | cons c colors ih =>
      rw [List.foldl_cons, ih, mem_insert, List.mem_cons, or_assoc, or_left_comm]
  exact (step empty).trans (by simp [empty])

/-- The number of colours. -/
def size (p : Palette) : Nat := p.colors.length

/-- Whether a colour is in the palette, whatever its letter case. -/
def allows (p : Palette) (color : Text) : Bool := decide (upper color ∈ p.colors)

/-- A colour is allowed if its upper-case form is in the palette. -/
theorem allows_iff {p : Palette} {color : Text} :
    p.allows color = true ↔ upper color ∈ p.colors := decide_eq_true_iff

/-- Reads `:root`, blanks and a body in braces that is not empty; the body is the value. -/
def rootBlock : Pattern Text := fun s => do
  let s ← after? exactly ":root".toList s
  let s ← after? exactly ['{'] (dropBlanks s)
  let body := s.takeWhile (· != '}')
  if body.isEmpty then none
  let rest ← after? exactly ['}'] (s.dropWhile (· != '}'))
  pure (body, rest)

/-- The body of the leftmost `:root` block of a stylesheet. -/
def rootBlock? (css : Text) : Option Text := find? rootBlock css

/-- The colour literals of a text, in upper case and in order. -/
def hexColors (s : Text) : List Text := (HexColor.literals s).map upper

/-- The colours that a stylesheet declares in its `:root` block. -/
def declared (css : Text) : List Text :=
  match rootBlock? css with
  | none => []
  | some body => hexColors body

/-- The palette of a stylesheet, given the colours that are always allowed. -/
def ofStylesheet (css : Text) (always : List Text) : Palette :=
  ofList (always.map upper ++ declared css)

/-- The palette of a stylesheet holds the colours that are always allowed and the declared ones. -/
theorem mem_ofStylesheet {css : Text} {always : List Text} {color : Text} :
    color ∈ (ofStylesheet css always).colors ↔
      color ∈ always.map upper ∨ color ∈ declared css := by
  rw [ofStylesheet, mem_ofList, List.mem_append]

end Palette

end DesignLint
