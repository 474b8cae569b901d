import DesignLint.Yaml.Source
import DesignLint.Yaml.Token

/-! # Names, tags and directives

The tokens that consist of words: names of nodes, tags with their escapes, and directives. -/

namespace DesignLint.Yaml.Reading

/-- Whether a character may stand in a name. -/
def isNameChar (c : Char) : Bool := c.isAlphanum || c == '-' || c == '_'

/-- Whether a character may stand in a tag, apart from escapes. -/
def isTagChar (c : Char) : Bool :=
  isNameChar c || "-;/?:@&=+$,_.!~*'()[]".toList.contains c

/-- Whether the name of a node ends at what comes next. -/
def endsName (c : Option Char) : Bool :=
  endsWord c || (c.map fun c => "?:,]\x7d%@`".toList.contains c).getD true

/-- The name of a node behind its mark. -/
def nodeName : Reading Text := do
  skip 1
  let name ← run isNameChar
  require !name.isEmpty
  require (endsName (← next))
  return name

/-- Two hex digits behind a percent sign. -/
def escapedByte : Reading UInt8 := do
  skip 1
  match ← (← get).digits? 16 2 with
  | some [high, low] =>
    skip 2
    return UInt8.ofNat (high * 16 + low)
  | _ => malformed

/-- The bytes of escapes that follow each other. -/
def escapedBytes : (steps : Nat) → Reading (List UInt8)
  | 0 => malformed
  | steps + 1 => do
    if (← next) == some '%' then
      let byte ← escapedByte
      return byte :: (← escapedBytes steps)
    else return []

/-- The pieces of a tag: characters that stand for themselves, and escaped UTF-8. -/
def tagPieces : (steps : Nat) → Reading Text
  | 0 => malformed
  | steps + 1 => do
    let piece ← run isTagChar
    if (← next) == some '%' then
      match Utf8.decode? (← escapedBytes (steps + 1)) with
      | some escaped => return piece ++ escaped ++ (← tagPieces steps)
      | none => malformed
    else return piece

/-- The text of a tag, which is not empty. -/
def tagText : Reading Text := do
  let s ← tagPieces (← steps)
  require !s.isEmpty
  return s

/-- The short name of a namespace: one exclamation mark, or two with a name between them. -/
def tagHandle : Reading Text := do
  require ((← next) == some '!')
  if (← ahead 1) == some ' ' then
    skip 1
    return ['!']
  else
    skip 1
    let name ← run isNameChar
    require ((← next) == some '!')
    skip 1
    return '!' :: name ++ ['!']

/-- A short name or a single mark in front of a tag. A short name is meant if there is a second
exclamation mark in the same part of the line. -/
def tagMark : Reading Text := do
  let behind ← (← get).drop 1
  if ← behind.meets '!' (fun c => endsPart (some c)) then tagHandle
  else
    skip 1
    return ['!']

/-- A tag. -/
def tag : Reading TagName := do
  let second ← ahead 1
  let name ←
    if second == some '<' then do
      skip 2
      let suffix ← tagText
      require ((← next) == some '>')
      skip 1
      pure ⟨none, suffix⟩
    else if endsWord second then do
      skip 1
      pure ⟨none, ['!']⟩
    else do
      let handle ← tagMark
      pure ⟨some handle, ← tagText⟩
  require (endsPart (← next))
  return name

/-- A number in a directive. -/
def directiveNumber : Reading Nat := do
  let digits ← run Char.isDigit
  require !digits.isEmpty
  match Numeral.readInteger 10 digits with
  | .ok n => return n.toNat
  | .error flaw => throw (.notNumber flaw)

/-- The numbers of a version. -/
def directiveVersion : Reading Directive := do
  let _ ← spaces
  let major ← directiveNumber
  require ((← next) == some '.')
  skip 1
  let _ ← directiveNumber
  require (endsPart (← next))
  return .version major

/-- A namespace and its short name. -/
def directiveTag : Reading Directive := do
  let _ ← spaces
  let handle ← tagHandle
  require ((← next) == some ' ')
  let _ ← spaces
  let beginning ← tagText
  require (endsPart (← next))
  return .tag handle beginning

/-- A directive with the rest of its line. -/
def directive : Reading Directive := do
  skip 1
  let name ← run isNameChar
  require !name.isEmpty
  require (endsPart (← next))
  let found ←
    if name = "YAML".toList then directiveVersion
    else if name = "TAG".toList then directiveTag
    else do
      let _ ← run fun c => !isBreak c
      pure .other
  restOfLine
  return found

end DesignLint.Yaml.Reading
