/-! # Texts

A text is a list of characters; offsets and lengths count characters. This file holds what the
rest of the library asks of plain text:

* `Text.occurs needle s`: whether `needle` is a contiguous part of `s`;
* `Text.lines s`: the parts of `s` between line feeds;
* `Text.lineAt s offset`: the number of the line that holds an offset;
* `Text.after? same word s`: what follows `word` at the head of `s`;
* `Text.ofNat`, `Text.ofInt`: decimal numerals. -/

namespace DesignLint

/-- A sequence of characters. -/
abbrev Text := List Char

instance : LawfulBEq Text := inferInstanceAs (LawfulBEq (List Char))

namespace Text

/-- Whether `needle` is a contiguous part of a text. -/
def occurs (needle : Text) : Text → Bool
  | [] => needle.isEmpty
  | c :: s => needle.isPrefixOf (c :: s) || occurs needle s

/-- The parts of a text between line feeds, in order; there is always at least one. -/
def lines : Text → List Text
  | [] => [[]]
  | c :: s =>
    if c = '\n' then [] :: lines s
    else match lines s with
      | [] => [[c]]
      | line :: rest => (c :: line) :: rest

/-- The number of characters before `offset`: a negative offset counts from the end, and every
offset is confined to the text. -/
def bound (s : Text) (offset : Int) : Nat :=
  if offset < 0 then (s.length + offset).toNat else min offset.toNat s.length

/-- The 1-based number of the line that holds `offset`. -/
def lineAt (s : Text) (offset : Int) : Nat :=
  (s.take (bound s offset)).count '\n' + 1

/-- What follows `word` at the head of a text, where `same w c` says that `c` may stand for the
character `w` of the word. -/
def after? (same : Char → Char → Bool) : (word : Text) → Text → Option Text
  | [], s => some s
  | _ :: _, [] => none
  | w :: word, c :: s => if same w c then after? same word s else none

/-- A character that stands for itself only. -/
def exactly (w c : Char) : Bool := w == c

/-- Characters that agree up to letter case. The long s folds to the same letter as `s`; no other
character beyond ASCII folds to one of the letters this library searches for. -/
def anyCase (w c : Char) : Bool :=
  w == c || w.toUpper == c || (w == 's' && c == 'ſ')

/-- Decimal digits of a natural number. -/
def ofNat (n : Nat) : Text := Nat.toDigits 10 n

/-- Decimal digits of an integer, with a minus sign in front of a negative one. -/
def ofInt : Int → Text
  | .ofNat n => ofNat n
  | .negSucc n => '-' :: ofNat (n + 1)

/-- Texts put together with a separator between neighbours. -/
def joined (separator : Text) : List Text → Text
  | [] => []
  | [s] => s
  | s :: rest => s ++ separator ++ joined separator rest

/-- The order of texts by code point; a text comes before the texts that it begins. -/
def le : Text → Text → Bool
  | [], _ => true
  | _ :: _, [] => false
  | c :: s, d :: t => c.toNat < d.toNat || (c == d && le s t)

/-- Texts in increasing order. -/
def sorted (texts : List Text) : List Text := texts.mergeSort le

end Text

end DesignLint
