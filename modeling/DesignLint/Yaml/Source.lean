import DesignLint.Yaml.Fault

/-! # Sources

The characters of a document with their places. A source ends where the document ends or breaks off
with a fault; the fault is met only by whoever looks that far:

* `Source.ahead?`, `Source.first`, `Source.digits?`, `Source.span`: looking at the characters to
  come;
* `Reading`: what consumes a source and may fail. -/

namespace DesignLint.Yaml

/-- Whether a character ends a line. -/
def isBreak (c : Char) : Bool :=
  c == '\n' || c == '\x85' || c == '\u2028' || c == '\u2029'

/-- Whether a character is a space or a tab. -/
def isBlank (c : Char) : Bool := c == ' ' || c == '\t'

/-- The place of a character. All three numbers count from zero. -/
structure Position where
  /-- The number of characters before it. -/
  index : Nat := 0
  /-- The number of line ends before it. -/
  line : Nat := 0
  /-- The number of characters before it on its line; a byte order mark does not count. -/
  column : Nat := 0
  deriving Repr, DecidableEq

/-- The place behind a character. -/
def Position.after (p : Position) (c : Char) : Position :=
  if isBreak c then ⟨p.index + 1, p.line + 1, 0⟩
  else if c = '\uFEFF' then ⟨p.index + 1, p.line, p.column⟩
  else ⟨p.index + 1, p.line, p.column + 1⟩

/-- The characters of a document from some place on. -/
inductive Source where
  /-- The document ends here. -/
  | finished (position : Position)
  /-- The document cannot be read from here on. -/
  | broken (position : Position) (fault : Fault)
  /-- A character and the characters behind it. -/
  | char (c : Char) (position : Position) (rest : Source)
  deriving Repr

namespace Source

/-- A text in front of a source, which is given the place behind the text. -/
def prepend (position : Position) : Text → (Position → Source) → Source
  | [], rest => rest position
  | c :: s, rest => .char c position (prepend (position.after c) s rest)

/-- The place where a source starts. -/
def position : Source → Position
  | finished position => position
  | broken position _ => position
  | char _ position _ => position

/-- The number of characters of a source. -/
def size : Source → Nat
  | finished _ => 0
  | broken .. => 0
  | char _ _ rest => rest.size + 1

/-- The character behind the next `n` ones; none behind the end. -/
def ahead? : Nat → Source → Except Fault (Option Char)
  | _, finished _ => .ok none
  | _, broken _ fault => .error fault
  | 0, char c _ _ => .ok (some c)
  | n + 1, char _ _ rest => rest.ahead? n

/-- The next `n` characters, or as many as there are. -/
def first : Nat → Source → Except Fault Text
  | 0, _ => .ok []
  | _, finished _ => .ok []
  | _, broken _ fault => .error fault
  | n + 1, char c _ rest => (first n rest).map (c :: ·)

/-- The next `n` characters as digits of a base; none if one of them is no digit or is missing.
Nothing behind the first such place is looked at. -/
def digits? (base : Nat) : Nat → Source → Except Fault (Option (List Nat))
  | 0, _ => .ok (some [])
  | _, finished _ => .ok none
  | _, broken _ fault => .error fault
  | n + 1, char c _ rest =>
    match Numeral.digit? base c with
    | none => .ok none
    | some digit => (digits? base n rest).map fun digits => digits.map (digit :: ·)

/-- The source behind the next `n` characters. -/
def drop : Nat → Source → Except Fault Source
  | 0, source => .ok source
  | _, finished position => .ok (finished position)
  | _, broken _ fault => .error fault
  | n + 1, char _ _ rest => drop n rest

/-- The longest beginning of a source in which every character is accepted, and the rest. -/
def span (accepts : Char → Bool) : Source → Except Fault (Text × Source)
  | finished position => .ok ([], finished position)
  | broken _ fault => .error fault
  | char c position rest =>
    if accepts c then (span accepts rest).map fun (s, rest) => (c :: s, rest)
    else .ok ([], char c position rest)

/-- Whether a character comes before the first one that is stopped at. -/
def meets (wanted : Char) (stops : Char → Bool) : Source → Except Fault Bool
  | finished _ => .ok false
  | broken _ fault => .error fault
  | char c _ rest =>
    if c = wanted then .ok true else if stops c then .ok false else meets wanted stops rest

end Source

/-- Consuming a source. The number that is at hand is more than the steps that this can take. -/
abbrev Reading := ReaderT Nat (StateT Source (Except Fault))

namespace Reading

/-- Gives up. -/
def malformed {α : Type} : Reading α := throw .malformed

/-- Gives up unless a condition holds. -/
def require (holds : Bool) : Reading Unit := if holds then pure () else malformed

/-- The character behind the next `n` ones, which stay. -/
def ahead (n : Nat) : Reading (Option Char) := fun _ source =>
  (source.ahead? n).map fun c => (c, source)

/-- The next character, which stays. -/
def next : Reading (Option Char) := ahead 0

/-- Consumes `n` characters. -/
def skip (n : Nat) : Reading Unit := fun _ source => (source.drop n).map fun rest => ((), rest)

/-- Consumes characters while they are accepted. -/
def run (accepts : Char → Bool) : Reading Text := fun _ => Source.span accepts

/-- The place of the next character. -/
def position : Reading Position := fun _ source => .ok (source.position, source)

/-- More steps than reading the rest of the source can take. -/
def steps : Reading Nat := read

end Reading

/-- Whether a line ends at what comes next. -/
def endsLine : Option Char → Bool
  | none => true
  | some c => isBreak c

/-- Whether a part of a line ends at what comes next. -/
def endsPart : Option Char → Bool
  | none => true
  | some c => c == ' ' || isBreak c

/-- Whether a word ends at what comes next. -/
def endsWord : Option Char → Bool
  | none => true
  | some c => isBlank c || isBreak c

namespace Reading

/-- Consumes the end of a line, if it comes next, and gives the text it stands for. -/
def lineBreak : Reading Text := do
  match ← next with
  | none => return []
  | some c =>
    if isBreak c then
      skip 1
      return [if c == '\x85' then '\n' else c]
    else return []

/-- Consumes spaces. -/
def spaces : Reading Text := run (· == ' ')

/-- Consumes a comment, if it comes next. -/
def comment : Reading Unit := do
  if (← next) == some '#' then
    let _ ← run fun c => !isBreak c

/-- Consumes the rest of a line, on which only a comment may stand. -/
def restOfLine : Reading Unit := do
  let _ ← spaces
  comment
  require (endsLine (← next))
  let _ ← lineBreak

/-- Whether three equal characters and the end of a word come next. -/
def atTriple (mark : Char) : Reading Bool := do
  let source ← get
  if (← source.first 3) == [mark, mark, mark] then return endsWord (← source.ahead? 3)
  else return false

/-- Whether the mark between documents or the mark at the end of one comes next. -/
def atDocumentMark : Reading Bool := do return (← atTriple '-') || (← atTriple '.')

end Reading

end DesignLint.Yaml
