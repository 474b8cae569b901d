import DesignLint.Proofs.Report.Draft

/-! # Colour

Colour shows in sequences that begin with the escape character and that stand around parts of
messages. Without these sequences, messages in colour are the messages without colour:

* `Style.erase`: a text without the sequences;
* `Style.ErasesTo`: what is left of the head of a text, whatever stands behind it;
* `Message.erasesTo_output`, `Message.erasesTo_write`: what is left of a message, and of a run of
  messages that may switch colour on and off;
* `Message.write_filter_speaks`: what messages write without colour, line by line;
* `Report.escape_not_mem_human`: the report adds no escape character to the texts of a result;
* `color_leaves_content`: all of it. -/

namespace DesignLint

/-! ## Sequences in a text -/

namespace Style

/-- The sequences that switch styles on and off. -/
def codes : List Text := [reset, red.code, green.code, dim.code]

/-- A text without the sequences in it, where the next `skip` characters still belong to the
sequence found before. -/
def eraseFrom : (skip : Nat) → Text → Text
  | _, [] => []
  | skip + 1, _ :: s => eraseFrom skip s
  | 0, c :: s =>
    match codes.find? (·.isPrefixOf (c :: s)) with
    | some code => eraseFrom (code.length - 1) s
    | none => c :: eraseFrom 0 s

/-- A text without the sequences in it. -/
def erase (s : Text) : Text := eraseFrom 0 s

/-- Without the sequences, a text that begins with `s` begins with `t`, and nothing behind `s` takes
part in this. -/
def ErasesTo (s t : Text) : Prop := ∀ rest, erase (s ++ rest) = t ++ erase rest

/-- Nothing erases to nothing. -/
theorem ErasesTo.nil : ErasesTo [] [] := fun _ => rfl

/-- One part of a text behind another. -/
theorem ErasesTo.append {s t s' t' : Text} (h : ErasesTo s t) (h' : ErasesTo s' t') :
    ErasesTo (s ++ s') (t ++ t') := by
  intro rest
  rw [List.append_assoc, h, h', List.append_assoc]

/-- A text as a whole. -/
theorem ErasesTo.erase_eq {s t : Text} (h : ErasesTo s t) : erase s = t := by
  have hend : erase (s ++ []) = t ++ [] := h []
  rwa [List.append_nil, List.append_nil] at hend

/-- Every sequence begins with the escape character. -/
theorem head?_of_mem_codes : ∀ code ∈ codes, code.head? = some '\x1b' := by decide

/-- No sequence begins with another character. -/
theorem find?_codes_eq_none {c : Char} (h : c ≠ '\x1b') (s : Text) :
    codes.find? (·.isPrefixOf (c :: s)) = none := by
  rw [List.find?_eq_none]
  intro code hcode hprefix
  have hhead := head?_of_mem_codes code hcode
  -- A sequence that begins the text has its first character from it.
  cases code with
  | nil => exact nomatch hhead
  | cons d code =>
    obtain ⟨rfl, -⟩ := List.cons_prefix_cons.1 (List.isPrefixOf_iff_prefix.1 hprefix)
    exact h (Option.some_inj.1 hhead)

/-- **A text without the escape character** is left as it is. -/
theorem erasesTo_self {s : Text} (h : '\x1b' ∉ s) : ErasesTo s s := by
  intro rest
  induction s with
  | nil => rfl
  | cons c s ih =>
    obtain ⟨hc, hs⟩ := List.ne_and_not_mem_of_not_mem_cons h
    rw [List.cons_append, erase, eraseFrom, find?_codes_eq_none hc.symm]
    exact congrArg (c :: ·) (ih hs)

/-- The sequence that switches a style on is erased: no other one begins like it. -/
theorem erasesTo_code (style : Style) : ErasesTo style.code [] := by
  intro rest
  cases style <;> rfl

/-- So is the sequence that switches every style off. -/
theorem erasesTo_reset : ErasesTo reset [] := fun _ => rfl

/-- **A text in a style** is left without the style. -/
theorem erasesTo_paint {s : Text} (h : '\x1b' ∉ s) (color : Bool) (style : Style) :
    ErasesTo (style.paint color s) s := by
  cases color with
  | false => exact erasesTo_self h
  | true =>
    have hpainted := ((erasesTo_code style).append (erasesTo_self h)).append erasesTo_reset
    rwa [List.nil_append, List.append_nil] at hpainted

end Style

/-! ## Messages -/

/-- Several outputs one behind the other. -/
def Output.together (outputs : List Output) : Output := outputs.foldr (· ++ ·) {}

/-- What is written to the two streams, without the sequences for styles. -/
def Output.erased (output : Output) : Output := ⟨Style.erase output.out, Style.erase output.err⟩

namespace Message

open Style

/-- The text that a message is given. -/
def text : Message → Text
  | info text | success text | failure text | detail text _ | dim text _ | error text => text
  | rule | setColor _ => []

/-- Whether a message writes anything. -/
def speaks : Message → Bool
  | setColor _ => false
  | _ => true

/-- The lines that a message writes to the output stream where colour is off. -/
def outLines : Message → List Text
  | error _ | setColor _ => []
  | message => [message.line]

/-- The lines that a message writes to the error stream where colour is off. -/
def errLines : Message → List Text
  | error text => ["ERROR: ".toList ++ text]
  | _ => []

/-- **One message**: without the sequences, it writes to each stream what it writes where colour is
off. -/
theorem erasesTo_output {message : Message} (h : '\x1b' ∉ message.text) (color : Bool) :
    ErasesTo (message.output color).out (message.output false).out ∧
      ErasesTo (message.output color).err (message.output false).err := by
  -- Only the parts in a style depend on colour; what stands around them holds no sequence.
  have hfeed : ErasesTo ['\n'] ['\n'] := erasesTo_self (by decide)
  have hspaces (n : Int) : ErasesTo (spaces n) (spaces n) :=
    erasesTo_self fun hmem => absurd (List.eq_of_mem_replicate hmem) (by decide)
  have hbehind {text : Text} (htext : '\x1b' ∉ text) : ErasesTo (' ' :: text) (' ' :: text) :=
    erasesTo_self (List.not_mem_cons_of_ne_of_not_mem (by decide) htext)
  cases message with
  | info text => exact ⟨(erasesTo_self h).append hfeed, .nil⟩
  | success text =>
    have hmark := erasesTo_paint (by decide : '\x1b' ∉ ['✓']) color .green
    exact ⟨(hmark.append (hbehind h)).append hfeed, .nil⟩
  | failure text =>
    have hmark := erasesTo_paint (by decide : '\x1b' ∉ ['✗']) color .red
    exact ⟨(hmark.append (hbehind h)).append hfeed, .nil⟩
  | detail text indent => exact ⟨((hspaces indent).append (erasesTo_self h)).append hfeed, .nil⟩
  | dim text indent =>
    have htext := erasesTo_paint h color .dim
    exact ⟨((hspaces indent).append htext).append hfeed, .nil⟩
  | rule =>
    have hrule : '\x1b' ∉ List.replicate ruleWidth '─' := by decide
    exact ⟨(erasesTo_self hrule).append hfeed, .nil⟩
  | error text =>
    have hword := erasesTo_paint (by decide : '\x1b' ∉ "ERROR:".toList) color .red
    exact ⟨.nil, (hword.append (hbehind h)).append hfeed⟩
  | setColor _ => exact ⟨.nil, .nil⟩

/-- A message that writes something leaves colour as it is. -/
theorem colorAfter_of_speaks {message : Message} (h : message.speaks = true) (color : Bool) :
    message.colorAfter color = color := by
  cases message with
  | setColor _ => exact nomatch h
  | _ => rfl

/-- A message that writes nothing. -/
theorem output_of_not_speaks {message : Message} (h : message.speaks = false) (color : Bool) :
    message.output color = {} := by
  cases message with
  | setColor _ => rfl
  | _ => exact nomatch h

/-- **A run of messages**: without the sequences, it writes to each stream what the messages that
write anything write where colour is off, however often colour changes on the way. -/
theorem erasesTo_write {messages : List Message} (h : ∀ message ∈ messages, '\x1b' ∉ message.text)
    (color : Bool) :
    ErasesTo (write color messages).out (write false (messages.filter speaks)).out ∧
      ErasesTo (write color messages).err (write false (messages.filter speaks)).err := by
  -- The induction is for any colour at the start, since the first message may change it.
  induction messages generalizing color with
  | nil => exact ⟨.nil, .nil⟩
  | cons message rest ih =>
    obtain ⟨hfirst, hrest⟩ := List.forall_mem_cons.1 h
    obtain ⟨hout, herr⟩ := ih hrest (message.colorAfter color)
    rw [write_cons]
    cases hspeaks : message.speaks with
    | true =>
      obtain ⟨hfirstOut, hfirstErr⟩ := erasesTo_output hfirst color
      rw [List.filter_cons_of_pos hspeaks, write_cons, colorAfter_of_speaks hspeaks false]
      exact ⟨hfirstOut.append hout, hfirstErr.append herr⟩
    | false =>
      -- The message only decides on the colour of the rest.
      rw [List.filter_cons_of_neg (Bool.eq_false_iff.1 hspeaks), output_of_not_speaks hspeaks]
      exact ⟨hout, herr⟩

/-- What some messages write, without the sequences. -/
theorem erased_write {messages : List Message} (h : ∀ message ∈ messages, '\x1b' ∉ message.text)
    (color : Bool) : (write color messages).erased = write false (messages.filter speaks) := by
  obtain ⟨hout, herr⟩ := erasesTo_write h color
  exact congrArg₂ Output.mk hout.erase_eq herr.erase_eq

/-! ## What is written without colour -/

/-- A message writes its lines where colour is off. -/
theorem output_false (message : Message) :
    message.output false =
      ⟨message.outLines.flatMap (· ++ ['\n']), message.errLines.flatMap (· ++ ['\n'])⟩ := by
  cases message <;> simp [output, outLines, errLines, line, Style.paint]

/-- **Without colour, messages write their lines**, those of errors to the error stream and all
others to the output stream. -/
theorem write_filter_speaks (messages : List Message) :
    write false (messages.filter speaks) = ⟨(messages.flatMap outLines).flatMap (· ++ ['\n']),
      (messages.flatMap errLines).flatMap (· ++ ['\n'])⟩ := by
  induction messages with
  | nil => rfl
  | cons message rest ih =>
    simp only [List.flatMap_cons, List.flatMap_append]
    cases hspeaks : message.speaks with
    | true =>
      rw [List.filter_cons_of_pos hspeaks, write_cons, colorAfter_of_speaks hspeaks, ih,
        output_false]
      rfl
    | false =>
      have hnone := output_of_not_speaks hspeaks false
      rw [output_false] at hnone
      obtain ⟨hout, herr⟩ := Output.mk.inj hnone
      rw [List.filter_cons_of_neg (Bool.eq_false_iff.1 hspeaks), ih, hout, herr]
      rfl

/-- Messages that write nothing can be written. -/
theorem findSome?_error?_filter (messages : List Message) :
    (messages.filter speaks).findSome? error? = messages.findSome? error? := by
  induction messages with
  | nil => rfl
  | cons message rest ih =>
    cases hspeaks : message.speaks with
    | true => rw [List.filter_cons_of_pos hspeaks, List.findSome?_cons, List.findSome?_cons, ih]
    | false =>
      have hnone : message.error? = none := by
        cases message with
        | setColor _ => rfl
        | _ => exact nomatch hspeaks
      rw [List.filter_cons_of_neg (Bool.eq_false_iff.1 hspeaks), ih, List.findSome?_cons, hnone]

/-- **Colour does not decide whether messages can be written**, and if they can, it shows in the
sequences only. -/
theorem map_outputs? {messages : List Message} (h : ∀ message ∈ messages, '\x1b' ∉ message.text)
    (color : Bool) :
    (outputs? color messages).map (fun written => (Output.together written).erased)
      = (outputs? false (messages.filter speaks)).map Output.together := by
  rw [outputs?, outputs?, findSome?_error?_filter]
  cases messages.findSome? error? with
  | some e => rfl
  | none => exact congrArg Except.ok (erased_write h color)

end Message

/-! ## The report -/

/-- The texts of a finding. -/
def Finding.texts (f : Finding) : List Text := [f.file, f.value, f.message]

/-- The texts of the outcome for a page. -/
def PageResult.texts (page : PageResult) : List Text :=
  page.name :: (page.exemptReason.toList ++ page.findings.flatMap Finding.texts)

/-- The texts of the outcome of a run. -/
def RunResult.texts (result : RunResult) : List Text := result.pages.flatMap PageResult.texts

namespace Report

open Message Numeral Text

/-- A number has no escape character. -/
theorem escape_not_mem_number {n : Int} {s : Text} (h : writeInteger n = .ok s) : '\x1b' ∉ s := by
  obtain ⟨-, rfl⟩ := writeInteger_eq_ok_iff.1 h
  exact not_mem_ofInt (by decide) (by decide) n

/-- The messages about a finding have no escape character if its texts have none. -/
theorem escape_not_mem_findingMessages {f : Finding} (h : ∀ s ∈ f.texts, '\x1b' ∉ s) :
    Each (fun message => '\x1b' ∉ message.text) (findingMessages f) := by
  simp only [Finding.texts, List.forall_mem_cons] at h
  obtain ⟨hfile, hvalue, hmessage, -⟩ := h
  have hkind : '\x1b' ∉ f.kind.name := by cases f.kind <;> decide
  have hplace (place : Text) (hplace : f.location = .ok place) : '\x1b' ∉ place := by
    obtain ⟨-, rfl⟩ := Finding.location_eq_ok_iff.1 hplace
    exact Finding.not_mem_place (by decide) (by decide) hfile
  rw [findingMessages]
  split
  · simpa [map_eq_ok_iff, text, hkind, hmessage] using hplace
  · simpa [map_eq_ok_iff, text, hkind, hmessage, hvalue] using hplace

/-- So for those about a page. -/
theorem escape_not_mem_pageMessages {page : PageResult} (h : ∀ s ∈ page.texts, '\x1b' ∉ s) :
    Each (fun message => '\x1b' ∉ message.text) (pageMessages page) := by
  obtain ⟨hname, hrest⟩ := List.forall_mem_cons.1 h
  obtain ⟨hreason, hfindings⟩ := List.forall_mem_append.1 hrest
  have hdetails : ∀ f ∈ page.findings,
      Each (fun message => '\x1b' ∉ message.text) (findingMessages f) := fun f hf =>
    escape_not_mem_findingMessages fun s hs => hfindings s (List.mem_flatMap.2 ⟨f, hf, hs⟩)
  rw [pageMessages]
  split
  · rename_i reason hexempt
    have hone : '\x1b' ∉ reason := hreason reason (Option.mem_toList.2 hexempt)
    have hsuffix : '\x1b' ∉ exemptSuffix reason := not_mem_exemptSuffix (by decide) hone
    simp [text, hname, hsuffix]
  · have hcount (count : Text) (h : writeInteger page.findings.length = .ok count) :
        '\x1b' ∉ count := escape_not_mem_number h
    split
    · simp [text, hname]
    · rw [each_append, each_cons, each_flatMap]
      refine ⟨⟨?_, hdetails⟩, by simp [text]⟩
      simpa [map_eq_ok_iff, text, hname] using hcount

/-- Those that sum a run up have none. -/
theorem escape_not_mem_summaryMessages (result : RunResult) :
    Each (fun message => '\x1b' ∉ message.text) (summaryMessages result) := by
  rw [summaryMessages]
  split
  · have hcount (count : Text) (h : writeInteger result.pages.length = .ok count) :
        '\x1b' ∉ count := escape_not_mem_number h
    simpa [map_eq_ok_iff, text] using hcount
  · have hfailure : ∀ message, failureMessage result = .ok message → '\x1b' ∉ message.text := by
      intro message h
      obtain ⟨total, failing, htotal, hfailing, rfl⟩ := failureMessage_eq_ok_iff.1 h
      simp [text, escape_not_mem_number htotal, escape_not_mem_number hfailing]
    simpa [text] using hfailure

/-- **The report has no escape character** if the texts of the result have none. The kind of the
files is mentioned only where there is no page. -/
theorem escape_not_mem_human {result : RunResult} {fileKind : Text}
    (h : ∀ s ∈ result.texts, '\x1b' ∉ s) (hkind : result.pages = [] → '\x1b' ∉ fileKind) :
    ∀ message ∈ (human result fileKind).messages, '\x1b' ∉ message.text := by
  have hsize (size : Text) (h : writeInteger result.paletteSize = .ok size) : '\x1b' ∉ size :=
    escape_not_mem_number h
  refine Each.of_mem_told ?_
  rw [draft, each_append]
  refine ⟨by simpa [map_eq_ok_iff, text] using hsize, ?_⟩
  split
  · rename_i hempty
    simp [text, hkind (List.isEmpty_iff.1 hempty)]
  · rw [each_append, each_flatMap]
    exact ⟨fun page hpage => escape_not_mem_pageMessages fun s hs =>
      h s (List.mem_flatMap.2 ⟨page, hpage, hs⟩), escape_not_mem_summaryMessages result⟩

/-- All messages of the report write something. -/
theorem filter_speaks_human (result : RunResult) (fileKind : Text) :
    (human result fileKind).messages.filter speaks = (human result fileKind).messages := by
  refine List.filter_eq_self.2 fun message hmessage => ?_
  cases isLine_of_mem_human result fileKind message hmessage <;> rfl

end Report

open Message Report

/-- **Colour never changes content.** Messages whose texts have no escape character write, in
whatever colour they begin and however they switch it, the lines that they write without colour as
soon as the sequences for styles are deleted: the lines of errors to the error stream and all others
to the output stream. Whether they can be written does not depend on colour either. The report about
a run consists of such messages if the texts of the result have no escape character. -/
theorem color_leaves_content (color : Bool) :
    (∀ messages : List Message, (∀ message ∈ messages, '\x1b' ∉ message.text) →
      (write color messages).erased = write false (messages.filter speaks) ∧
      write false (messages.filter speaks) = ⟨(messages.flatMap outLines).flatMap (· ++ ['\n']),
        (messages.flatMap errLines).flatMap (· ++ ['\n'])⟩ ∧
      (outputs? color messages).map (fun written => (Output.together written).erased)
        = (outputs? false (messages.filter speaks)).map Output.together) ∧
    ∀ result fileKind, (∀ s ∈ result.texts, '\x1b' ∉ s) →
      (result.pages = [] → '\x1b' ∉ fileKind) →
      (write color (human result fileKind).messages).erased
        = write false (human result fileKind).messages ∧
      (write color (human result fileKind).messages).err = [] := by
  refine ⟨fun messages h => ⟨erased_write h color, write_filter_speaks messages,
    map_outputs? h color⟩, fun result fileKind h hkind => ⟨?_, ?_⟩⟩
  · rw [erased_write (escape_not_mem_human h hkind), filter_speaks_human]
  · exact err_write (isLine_of_mem_human result fileKind) color

/-- Colour that is switched on behind the first message. -/
theorem color_leaves_content_switched :
    let messages := [success ['a'], setColor true, dim ['b'] 4, error ['c']]
    (∀ message ∈ messages, '\x1b' ∉ message.text) ∧
      write false messages =
        ⟨"✓ a\n    \x1b[2mb\x1b[0m\n".toList, "\x1b[91mERROR:\x1b[0m c\n".toList⟩ ∧
      (write false messages).erased = ⟨"✓ a\n    b\n".toList, "ERROR: c\n".toList⟩ := by
  intro messages
  have hplain : ∀ message ∈ messages, '\x1b' ∉ message.text := by decide
  obtain ⟨herased, hlines, -⟩ := (color_leaves_content false).1 messages hplain
  exact ⟨hplain, rfl, herased.trans hlines⟩

end DesignLint
