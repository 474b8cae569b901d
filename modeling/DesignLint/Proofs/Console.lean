import DesignLint.Console
import DesignLint.Proofs.Text.Lines

/-! # What messages write

Most messages are lines for the output stream and leave colour as it is:

* `Message.IsLine`: a message of this kind;
* `Message.err_write`: such messages write nothing to the error stream;
* `Message.lines_write`: without colour they write one line each. -/

namespace DesignLint

namespace Message

/-- A message that is a line for the output stream. -/
inductive IsLine : Message → Prop
  /-- A plain line. -/
  | info (text : Text) : IsLine (.info text)
  /-- A line with a check mark. -/
  | success (text : Text) : IsLine (.success text)
  /-- A line with a cross. -/
  | failure (text : Text) : IsLine (.failure text)
  /-- An indented line. -/
  | detail (text : Text) (indent : Int) : IsLine (.detail text indent)
  /-- An indented line in a dim style. -/
  | dim (text : Text) (indent : Int) : IsLine (.dim text indent)
  /-- A horizontal rule. -/
  | rule : IsLine .rule

/-- The line that a message writes to the output stream where colour is off. -/
def line : Message → Text
  | info text => text
  | success text => '✓' :: ' ' :: text
  | failure text => '✗' :: ' ' :: text
  | detail text indent | dim text indent => spaces indent ++ text
  | rule => List.replicate ruleWidth '─'
  | error _ | setColor _ => []

/-- Lines for the output stream leave the error stream alone. -/
theorem IsLine.err_output {message : Message} (h : message.IsLine) (color : Bool) :
    (message.output color).err = [] := by
  cases h <;> rfl

/-- **Lines for the output stream write nothing to the error stream**, however many they are. -/
theorem err_write {messages : List Message} (h : ∀ message ∈ messages, message.IsLine)
    (color : Bool) : (write color messages).err = [] := by
  induction messages generalizing color with
  | nil => rfl
  | cons message rest ih =>
    obtain ⟨hfirst, hrest⟩ := List.forall_mem_cons.1 h
    rw [write_cons]
    show (message.output color).err ++ (write (message.colorAfter color) rest).err = []
    rw [hfirst.err_output, ih hrest, List.append_nil]

/-- Where colour is off, the line is all that is written, and colour stays off. -/
theorem IsLine.output_false {message : Message} (h : message.IsLine) :
    (message.output false).out = message.line ++ ['\n'] ∧ message.colorAfter false = false := by
  cases h <;> exact ⟨rfl, rfl⟩

/-- **Lines for the output stream are written one for each message**, with an empty one at the
end. -/
theorem lines_write {messages : List Message} (h : ∀ message ∈ messages, message.IsLine)
    (hline : ∀ message ∈ messages, '\n' ∉ message.line) :
    Text.lines (write false messages).out = messages.map line ++ [[]] := by
  have hout : (write false messages).out = (messages.map line).flatMap (· ++ ['\n']) := by
    clear hline
    induction messages with
    | nil => rfl
    | cons message rest ih =>
      obtain ⟨hfirst, hrest⟩ := List.forall_mem_cons.1 h
      obtain ⟨hwritten, hcolor⟩ := hfirst.output_false
      rw [write_cons, hcolor, List.map_cons, List.flatMap_cons, ← ih hrest, ← hwritten]
      rfl
  rw [hout]
  exact Text.lines_flatMap_newline (List.forall_mem_map.2 hline)

end Message

end DesignLint
