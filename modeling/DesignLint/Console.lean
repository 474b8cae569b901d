import DesignLint.Text.Basic

/-! # Console messages

Messages for a reader at a terminal. A message is a value; writing it yields the text for the
output stream and the text for the error stream. Colour is a state that a message may change. -/

namespace DesignLint

/-- What is written to the two streams of a program. -/
structure Output where
  /-- The text for the output stream. -/
  out : Text := []
  /-- The text for the error stream. -/
  err : Text := []
  deriving Repr, DecidableEq

/-- One output behind another. -/
def Output.append (a b : Output) : Output := ⟨a.out ++ b.out, a.err ++ b.err⟩

instance : Append Output := ⟨Output.append⟩

/-- The styles in which a part of a message may show. -/
inductive Style where
  /-- Red, for failures. -/
  | red
  /-- Green, for success. -/
  | green
  /-- Dim, for details. -/
  | dim
  deriving Repr, DecidableEq

namespace Style

/-- The sequence that switches a style on. -/
def code : Style → Text
  | red => "\x1b[91m".toList
  | green => "\x1b[92m".toList
  | dim => "\x1b[2m".toList

/-- The sequence that switches every style off. -/
def reset : Text := "\x1b[0m".toList

/-- A text in a style, if colour is on. -/
def paint (color : Bool) (style : Style) (s : Text) : Text :=
  if color then style.code ++ s ++ reset else s

end Style

/-- A message to the console. -/
inductive Message where
  /-- A plain line. -/
  | info (text : Text)
  /-- A line with a check mark. -/
  | success (text : Text)
  /-- A line with a cross. -/
  | failure (text : Text)
  /-- An indented line. -/
  | detail (text : Text) (indent : Int)
  /-- An indented line in a dim style. -/
  | dim (text : Text) (indent : Int)
  /-- A horizontal rule. -/
  | rule
  /-- A line for the error stream. -/
  | error (text : Text)
  /-- Switches colour on or off; writes nothing. -/
  | setColor (color : Bool)
  deriving Repr, DecidableEq

/-- Why messages cannot be written. -/
inductive MessageError where
  /-- An indentation that fits no signed word of 64 bits. -/
  | indentBeyondWord
  /-- An indentation that is wider than the memory. -/
  | indentBeyondMemory
  deriving Repr, DecidableEq

/-- The text of an error about messages. -/
def MessageError.message : MessageError → Text
  | indentBeyondWord => "cannot fit 'int' into an index-sized integer".toList
  | indentBeyondMemory => []

namespace Message

/-- The indentation of a detail. -/
def detailIndent : Int := 2

/-- The indentation of a dim line. -/
def dimIndent : Int := 4

/-- The number of characters of a rule. -/
def ruleWidth : Nat := 50

/-- Some spaces; none if the number is negative. -/
def spaces (n : Int) : Text := List.replicate n.toNat ' '

/-- What a message writes when colour is on or off. -/
def output (color : Bool) : Message → Output
  | info text => ⟨text ++ ['\n'], []⟩
  | success text => ⟨Style.green.paint color ['✓'] ++ ' ' :: text ++ ['\n'], []⟩
  | failure text => ⟨Style.red.paint color ['✗'] ++ ' ' :: text ++ ['\n'], []⟩
  | detail text indent => ⟨spaces indent ++ text ++ ['\n'], []⟩
  | dim text indent => ⟨spaces indent ++ Style.dim.paint color text ++ ['\n'], []⟩
  | rule => ⟨List.replicate ruleWidth '─' ++ ['\n'], []⟩
  | error text => ⟨[], Style.red.paint color "ERROR:".toList ++ ' ' :: text ++ ['\n']⟩
  | setColor _ => {}

/-- Whether colour is on behind a message. -/
def colorAfter (color : Bool) : Message → Bool
  | setColor color => color
  | _ => color

/-- What each of some messages writes, in order. -/
def outputs : (color : Bool) → List Message → List Output
  | _, [] => []
  | color, message :: rest => message.output color :: outputs (message.colorAfter color) rest

/-- The number of signed words of 64 bits that are not negative. -/
def wordBound : Int := 0x8000000000000000

/-- The number of bytes that the memory of a program has room for. -/
def memoryBound : Int := 0x800000000000

/-- The indentation of a message; zero for a message without one. -/
def indent : Message → Int
  | detail _ indent => indent
  | dim _ indent => indent
  | _ => 0

/-- Why a message cannot be written, if it cannot. -/
def error? (message : Message) : Option MessageError :=
  if message.indent < -wordBound || wordBound ≤ message.indent then some .indentBeyondWord
  else if memoryBound ≤ message.indent then some .indentBeyondMemory
  else none

/-- What each of some messages writes, in order, or why the first that cannot be written is not. -/
def outputs? (color : Bool) (messages : List Message) : Except MessageError (List Output) :=
  match messages.findSome? error? with
  | some e => .error e
  | none => .ok (outputs color messages)

/-- What some messages write together. -/
def write (color : Bool) (messages : List Message) : Output :=
  (outputs color messages).foldr (· ++ ·) {}

/-- Messages are written one after the other. -/
theorem write_cons (color : Bool) (message : Message) (rest : List Message) :
    write color (message :: rest) =
      message.output color ++ write (message.colorAfter color) rest := rfl

end Message

end DesignLint
