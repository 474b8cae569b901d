import DesignLint.Yaml.Source

/-! # The text of scalars

Scalars come in quotes, plain, or as the lines of a block. In quotes and in plain scalars a single
line end is read as a space, and of several ones the first is dropped; blocks keep their lines or
join them in the same way. -/

namespace DesignLint.Yaml

/-- What a line end and the empty lines behind it stand for where lines are joined. -/
def joinedBreaks (first following : Text) : Text :=
  if first ≠ ['\n'] then first ++ following else if following.isEmpty then [' '] else following

/-- The character that a letter behind a backslash stands for. -/
def escape? : Char → Option Char
  | '0' => some '\x00'
  | 'a' => some '\x07'
  | 'b' => some '\x08'
  | 't' | '\t' => some '\t'
  | 'n' => some '\n'
  | 'v' => some '\x0b'
  | 'f' => some '\x0c'
  | 'r' => some '\r'
  | 'e' => some '\x1b'
  | ' ' => some ' '
  | '"' => some '"'
  | '\\' => some '\\'
  | '/' => some '/'
  | 'N' => some '\x85'
  | '_' => some '\u00a0'
  | 'L' => some '\u2028'
  | 'P' => some '\u2029'
  | _ => none

/-- The number of hex digits behind a letter that starts a numeric escape. -/
def escapeWidth? : Char → Option Nat
  | 'x' => some 2
  | 'u' => some 4
  | 'U' => some 8
  | _ => none

/-- The greatest number of a character. -/
def maxCharacter : Nat := 0x10FFFF

/-- The greatest number of a signed word of 32 bits. -/
def maxWord : Nat := 0x7FFFFFFF

/-- The character with a number. A number that belongs to no character by itself is shown as
U+FFFD. -/
def characterOf (code : Nat) : Except Fault Char :=
  if maxWord < code then .error .beyondWord
  else if maxCharacter < code then .error .noCharacter
  else if code.isValidChar then .ok (Char.ofNat code)
  else .ok '\uFFFD'

namespace Reading

/-! ## Quotes -/

/-- Empty lines inside quotes, with the blanks in front of the text that follows them. -/
def quotedBreaks : (steps : Nat) → Reading Text
  | 0 => malformed
  | steps + 1 => do
    require !(← atDocumentMark)
    let _ ← run isBlank
    match ← lineBreak with
    | [] => return []
    | line => return line ++ (← quotedBreaks steps)

/-- Blanks and line ends inside quotes. -/
def quotedGap : Reading Text := do
  let blanks ← run isBlank
  match ← next with
  | none => malformed
  | some c =>
    if isBreak c then
      let first ← lineBreak
      return joinedBreaks first (← quotedBreaks (← steps))
    else return blanks

/-- The character of a numeric escape of `width` hex digits. -/
def numericEscape (width : Nat) : Reading Char := do
  match ← (← get).digits? 16 width with
  | none => malformed
  | some digits =>
    let c ← characterOf (Numeral.digitsValue 16 digits)
    skip width
    return c

/-- What stands behind a backslash: an escaped character, or a line end that is dropped together
with the blanks behind it. -/
def escaped : Reading Text := do
  match ← next with
  | none => malformed
  | some c =>
    match escape? c, escapeWidth? c with
    | some plain, _ =>
      skip 1
      return [plain]
    | none, some width =>
      skip 1
      return [← numericEscape width]
    | none, none =>
      if isBreak c then
        let _ ← lineBreak
        quotedBreaks (← steps)
      else malformed

/-- Whether a character stands for itself inside quotes of both kinds. -/
def isUnquoted (c : Char) : Bool :=
  c != '\'' && c != '"' && c != '\\' && !isBlank c && !isBreak c

/-- A part without blanks between single quotes. A quote is written twice. -/
def singleQuotedPart : (steps : Nat) → Reading Text
  | 0 => malformed
  | steps + 1 => do
    let plain ← run isUnquoted
    match ← next with
    | some '\'' =>
      if (← ahead 1) == some '\'' then
        skip 2
        return plain ++ '\'' :: (← singleQuotedPart steps)
      else return plain
    | some '"' =>
      skip 1
      return plain ++ '"' :: (← singleQuotedPart steps)
    | some '\\' =>
      skip 1
      return plain ++ '\\' :: (← singleQuotedPart steps)
    | _ => return plain

/-- A part without blanks between double quotes. -/
def doubleQuotedPart : (steps : Nat) → Reading Text
  | 0 => malformed
  | steps + 1 => do
    let plain ← run isUnquoted
    match ← next with
    | some '\'' =>
      skip 1
      return plain ++ '\'' :: (← doubleQuotedPart steps)
    | some '\\' =>
      skip 1
      let c ← escaped
      return plain ++ c ++ (← doubleQuotedPart steps)
    | _ => return plain

/-- Parts and gaps up to the closing quote, which stays. -/
def quotedRest (quote : Char) (part : Reading Text) : (steps : Nat) → Reading Text
  | 0 => malformed
  | steps + 1 => do
    if (← next) == some quote then return []
    else
      let gap ← quotedGap
      let text ← part
      return gap ++ text ++ (← quotedRest quote part steps)

/-- A scalar in quotes. -/
def quoted (quote : Char) : Reading Text := do
  skip 1
  let part := do
    if quote = '"' then doubleQuotedPart (← steps) else singleQuotedPart (← steps)
  let first ← part
  let rest ← quotedRest quote part (← steps)
  skip 1
  return first ++ rest

/-! ## Plain scalars -/

/-- Whether a character ends a plain scalar between brackets. -/
def isFlowMark (c : Char) : Bool := c == ',' || c == '[' || c == ']' || c == '\x7b' || c == '\x7d'

/-- A part of a plain scalar without blanks. A colon ends it in front of the end of a word, and
between brackets also in front of a mark. -/
def plainPartFrom (inFlow : Bool) : Source → Except Fault (Text × Source)
  | .finished position => .ok ([], .finished position)
  | .broken _ fault => .error fault
  | .char c position rest => do
    let ends ←
      if isBlank c || isBreak c || (inFlow && (isFlowMark c || c == '?')) then pure true
      else if c == ':' then do
        let following ← rest.ahead? 0
        pure (endsWord following || (inFlow && (following.map isFlowMark).getD false))
      else pure false
    if ends then return ([], .char c position rest)
    else
      let (s, rest) ← plainPartFrom inFlow rest
      return (c :: s, rest)

/-- A part of a plain scalar without blanks. -/
def plainPart (inFlow : Bool) : Reading Text := fun _ => plainPartFrom inFlow

/-- Empty lines inside a plain scalar, with the spaces in front of the text that follows them; none
if a mark between documents follows. -/
def plainBreaks : (steps : Nat) → Reading (Option Text)
  | 0 => malformed
  | steps + 1 => do
    let _ ← spaces
    match ← lineBreak with
    | [] => return some []
    | line =>
      if ← atDocumentMark then return none
      else return (← plainBreaks steps).map (line ++ ·)

/-- Spaces and line ends inside a plain scalar, and whether there is a line end. The gap is empty
where the scalar cannot go on. -/
def plainGap : Reading (Text × Bool) := do
  let blanks ← spaces
  match ← lineBreak with
  | [] => return (blanks, false)
  | first =>
    if ← atDocumentMark then return ([], true)
    else match ← plainBreaks (← steps) with
      | none => return ([], true)
      | some following => return (joinedBreaks first following, true)

/-- What follows a part of a plain scalar, and whether it ends behind a line end. In a block, lines
have to be indented by `indent` to belong to the scalar. -/
def plainRest (inFlow : Bool) (indent : Int) : (steps : Nat) → Reading (Text × Bool)
  | 0 => malformed
  | steps + 1 => do
    let (gap, crossed) ← plainGap
    let outdented := !inFlow && decide (((← position).column : Int) < indent)
    if gap.isEmpty || (← next) == some '#' || outdented then return ([], crossed)
    else
      match ← plainPart inFlow with
      | [] => return ([], crossed)
      | part =>
        let (rest, crossed) ← plainRest inFlow indent steps
        return (gap ++ part ++ rest, crossed)

/-- A plain scalar, and whether it ends behind a line end. -/
def plain (inFlow : Bool) (indent : Int) : Reading (Text × Bool) := do
  let part ← plainPart inFlow
  let (rest, crossed) ← plainRest inFlow indent (← steps)
  return (part ++ rest, crossed)

/-! ## Blocks -/

/-- What becomes of the line ends at the end of a block. -/
inductive Chomping where
  /-- All are dropped. -/
  | strip
  /-- The first one is kept. -/
  | clip
  /-- All are kept. -/
  | keep
  deriving Repr, DecidableEq

/-- The line ends that are kept. -/
def Chomping.kept (first following : Text) : Chomping → Text
  | strip => []
  | clip => first
  | keep => first ++ following

/-- The sign for chomping, if it comes next. -/
def chomping? : Reading (Option Chomping) := do
  match ← next with
  | some '+' =>
    skip 1
    return some .keep
  | some '-' =>
    skip 1
    return some .strip
  | _ => return none

/-- The digit for the indentation, if it comes next. -/
def increment? : Reading (Option Nat) := do
  match (← next).bind (Numeral.digit? 10) with
  | some 0 => malformed
  | some n =>
    skip 1
    return some n
  | none => return none

/-- The signs behind the mark of a block, in any order. -/
def blockHeader : Reading (Chomping × Option Nat) := do
  let sign ← chomping?
  let increment ← increment?
  let sign ← match sign, increment with
    | none, some _ => chomping?
    | sign, _ => pure sign
  require (endsPart (← next))
  restOfLine
  return (sign.getD .clip, increment)

/-- Empty lines in front of the first line of a block, and the width of the widest indentation. -/
def blockIndentation (width : Nat) : (steps : Nat) → Reading (Text × Nat)
  | 0 => malformed
  | steps + 1 => do
    let _ ← spaces
    let width := max width (← position).column
    match ← lineBreak with
    | [] => return ([], width)
    | line =>
      let (rest, width) ← blockIndentation width steps
      return (line ++ rest, width)

/-- Consumes up to `n` spaces. -/
def spacesUpTo : Nat → Reading Unit
  | 0 => return ()
  | n + 1 => do
    if (← next) == some ' ' then
      skip 1
      spacesUpTo n

/-- Consumes the indentation of a line. -/
def indentation (indent : Nat) : Reading Unit := do
  spacesUpTo (indent - (← position).column)

/-- Empty lines inside a block, with the indentation of the line behind them. -/
def blockBreaks (indent : Nat) : (steps : Nat) → Reading Text
  | 0 => malformed
  | steps + 1 => do
    indentation indent
    match ← lineBreak with
    | [] => return []
    | line => return line ++ (← blockBreaks indent steps)

/-- Whether a line of a block comes next. -/
def atBlockLine (indent : Nat) : Reading Bool := do
  return (← position).column == indent && (← next).isSome

/-- Whether a space or a tab comes next. -/
def atBlank : Reading Bool := do return ((← next).map isBlank).getD false

/-- The lines of a block. Lines are joined only if neither of them starts with a blank. -/
def blockLines (folded : Bool) (chomping : Chomping) (indent : Nat) : (steps : Nat) → Reading Text
  | 0 => malformed
  | steps + 1 => do
    let blankBefore ← atBlank
    let line ← run fun c => !isBreak c
    let first ← lineBreak
    let following ← blockBreaks indent (← Reading.steps)
    if ← atBlockLine indent then
      let joins := folded && first == ['\n'] && !blankBefore && !(← atBlank)
      let rest ← blockLines folded chomping indent steps
      return line ++ (if joins then if following.isEmpty then [' '] else following
        else first ++ following) ++ rest
    else return line ++ chomping.kept first following

/-- A scalar in a block inside a collection with the indentation `outer`. -/
def block (folded : Bool) (outer : Int) : Reading Text := do
  skip 1
  let (chomping, increment) ← blockHeader
  let least := (max (outer + 1) 1).toNat
  let (leading, indent) ← match increment with
    | some n => do
      let indent := least + n - 1
      pure (← blockBreaks indent (← steps), indent)
    | none => do
      let (leading, width) ← blockIndentation 0 (← steps)
      pure (leading, max least width)
  if ← atBlockLine indent then
    return leading ++ (← blockLines folded chomping indent (← steps))
  else return chomping.kept [] leading

end Reading

end DesignLint.Yaml
