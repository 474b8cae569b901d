import DesignLint.Text.Basic

/-! # Tags

A tag says what a node of a document is. Scalars without a tag get one from their text:

* `Tag.ofText`: the tag with a name;
* `Tag.ofPlain`: the tag that the text of a plain scalar implies. -/

namespace DesignLint.Yaml

/-- The tags that have a meaning. -/
inductive Tag where
  /-- The value without content. -/
  | null
  /-- A truth value. -/
  | bool
  /-- An integer. -/
  | int
  /-- A floating-point number. -/
  | float
  /-- Bytes in base 64. -/
  | binary
  /-- A day or a moment. -/
  | timestamp
  /-- A text. -/
  | str
  /-- A sequence. -/
  | seq
  /-- A mapping. -/
  | map
  /-- A set. -/
  | set
  /-- A mapping whose order matters. -/
  | omap
  /-- A list of pairs. -/
  | pairs
  /-- The key for mappings that are merged. -/
  | merge
  /-- The key for the value of a mapping that stands for a scalar. -/
  | value
  /-- Any other tag. -/
  | other
  deriving Repr, DecidableEq

namespace Tag

/-- The beginning of the names of all tags with a meaning. -/
def standardNamespace : Text := "tag:yaml.org,2002:".toList

/-- The tags by their names in the standard namespace. -/
def standardNames : List (Text × Tag) :=
  [("null", null), ("bool", bool), ("int", int), ("float", float), ("binary", binary),
   ("timestamp", timestamp), ("str", str), ("seq", seq), ("map", map), ("set", set),
   ("omap", omap), ("pairs", pairs), ("merge", merge), ("value", value)].map
    fun (name, tag) => (name.toList, tag)

/-- The tag with a name. -/
def ofText (name : Text) : Tag :=
  if standardNamespace.isPrefixOf name then
    (standardNames.lookup (name.drop standardNamespace.length)).getD other
  else other

/-! ## Forms of plain scalars -/

/-- A text without a sign at its head. -/
def dropSign : Text → Text
  | c :: s => if c == '-' || c == '+' then s else c :: s
  | [] => []

/-- Whether a character is a digit or a separator of digits. -/
def isDigitOrLow (c : Char) : Bool := c.isDigit || c == '_'

/-- The text behind digits and separators, which start with a digit. -/
def afterDigits? : Text → Option Text
  | c :: s => if c.isDigit then some (s.dropWhile isDigitOrLow) else none
  | [] => none

/-- Whether a text is digits from 0 to 59, without a zero in front or with one. -/
def isSexagesimal : Text → Bool
  | [c] => c.isDigit
  | [c, d] => '0' ≤ c && c ≤ '5' && d.isDigit
  | _ => false

/-- The parts of a text between colons. -/
def colonParts : Text → List Text
  | [] => [[]]
  | c :: s =>
    if c = ':' then [] :: colonParts s
    else match colonParts s with
      | [] => [[c]]
      | part :: rest => (c :: part) :: rest

/-- Whether a text is an exponent with a sign. -/
def isExponent : Text → Bool
  | [] => true
  | mark :: sign :: digits =>
    (mark == 'e' || mark == 'E') && (sign == '-' || sign == '+') && !digits.isEmpty &&
      digits.all Char.isDigit
  | _ => false

/-- Whether a text is digits, a point, digits or none, and an exponent or none. -/
def isPointed (s : Text) : Bool :=
  match afterDigits? s with
  | some ('.' :: fraction) => isExponent (fraction.dropWhile isDigitOrLow)
  | _ => false

/-- Whether a text is a point, digits, and an exponent or none. -/
def isFraction : Text → Bool
  | '.' :: s => ((afterDigits? s).map isExponent).getD false
  | _ => false

/-- Whether a text is digits and sexagesimal parts behind colons, the last one with a point. -/
def isSexagesimalFloat (s : Text) : Bool :=
  match colonParts s with
  | first :: rest =>
    match rest.getLast? with
    | none => false
    | some last =>
      (afterDigits? first) == some [] && rest.dropLast.all isSexagesimal &&
        isSexagesimal (last.takeWhile (· != '.')) &&
        match last.dropWhile (· != '.') with
        | '.' :: fraction => fraction.all isDigitOrLow
        | _ => false
  | [] => false

/-- Whether a text is one of some words. -/
def isWord (words : List String) (s : Text) : Bool := words.any fun word => word.toList == s

/-- Whether a text is a floating-point number. -/
def isFloat (s : Text) : Bool :=
  isPointed (dropSign s) || isFraction s || isSexagesimalFloat (dropSign s) ||
    isWord [".inf", ".Inf", ".INF"] (dropSign s) || isWord [".nan", ".NaN", ".NAN"] s

/-- Whether a text is a mark and at least one accepted character. -/
def isMarked (mark : Text) (accepts : Char → Bool) (s : Text) : Bool :=
  mark.isPrefixOf s && mark.length < s.length && (s.drop mark.length).all accepts

/-- Whether a text is an integer without a sign. -/
def isMagnitude (s : Text) : Bool :=
  let startsHigh := (s.head?.map fun c => '1' ≤ c && c ≤ '9').getD false
  isMarked ['0', 'b'] (fun c => c == '0' || c == '1' || c == '_') s ||
    isMarked ['0'] (fun c => ('0' ≤ c && c ≤ '7') || c == '_') s ||
    s == ['0'] || (startsHigh && s.all isDigitOrLow) ||
    isMarked ['0', 'x']
      (fun c => isDigitOrLow c || ('a' ≤ c && c ≤ 'f') || ('A' ≤ c && c ≤ 'F')) s ||
    match colonParts s with
    | first :: rest =>
      startsHigh && first.all isDigitOrLow && !rest.isEmpty && rest.all isSexagesimal
    | [] => false

/-- Whether a text is an integer. -/
def isInteger (s : Text) : Bool := isMagnitude (dropSign s)

/-- Whether a text is a truth value. -/
def isBoolean (s : Text) : Bool :=
  isWord ["yes", "Yes", "YES", "no", "No", "NO", "true", "True", "TRUE", "false", "False", "FALSE",
    "on", "On", "ON", "off", "Off", "OFF"] s

end Tag

end DesignLint.Yaml
