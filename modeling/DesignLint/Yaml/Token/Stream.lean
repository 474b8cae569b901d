import DesignLint.Yaml.Token.Scalar
import DesignLint.Yaml.Token.Word

/-! # Token streams

`TokenStream.ofSource source` takes a document apart. Only a colon tells that the words in front of
it were a key, so the marks for a key and for the mapping around it are put in later, before tokens
that are read already. Tokens from a possible key on are therefore withheld until it is decided
whether it is one, and a fault hides the tokens that are withheld. -/

namespace DesignLint.Yaml

/-- A place where a key of one line may start. -/
structure PossibleKey where
  /-- The number of tokens before it. -/
  tokens : Nat
  /-- Whether nothing but a key may stand there. -/
  required : Bool
  /-- The place in the document. -/
  position : Position
  deriving Repr, DecidableEq

/-- The most characters between the start of a key and its colon. -/
def PossibleKey.maxLength : Nat := 1024

/-- Whether a place is too far off for a key. -/
def PossibleKey.isStale (key : PossibleKey) (here : Position) : Bool :=
  key.position.line != here.line || PossibleKey.maxLength < here.index - key.position.index

/-- A document that is taken apart. -/
structure Lexer where
  /-- What is not read yet. -/
  rest : Source
  /-- More than the steps that reading the document can take. -/
  limit : Nat
  /-- The column of the innermost collection in a block; -1 outside. -/
  indent : Int := -1
  /-- The columns of the collections around it. -/
  outer : List Int := []
  /-- The possible key between the innermost brackets. -/
  key : Option PossibleKey := none
  /-- The possible keys around it, one for each pair of brackets. -/
  outerKeys : List (Option PossibleKey) := []
  /-- Whether a key of one line may start here. -/
  keyAllowed : Bool := true
  /-- The tokens. -/
  tokens : Array Token := #[]

/-- Taking a document apart. -/
abbrev Lexing := StateT Lexer (Except Fault)

namespace Lexer

/-- Whether brackets are open. -/
def inFlow (lexer : Lexer) : Bool := !lexer.outerKeys.isEmpty

/-- The number of tokens that no decision about a key can change any more. -/
def settled (lexer : Lexer) : Nat :=
  (lexer.key :: lexer.outerKeys).foldl (fun least key =>
    match key with
    | some key => min least key.tokens
    | none => least) lexer.tokens.size

/-- Puts a token behind the first `count` ones. -/
def insertAt (lexer : Lexer) (count : Nat) (token : Token) : Lexer :=
  { lexer with tokens := lexer.tokens.insertIdxIfInBounds count token }

end Lexer

namespace Lexing

/-- Consumes a part of the document. -/
def lift {α : Type} (reading : Reading α) : Lexing α := fun lexer =>
  (reading lexer.limit lexer.rest).map fun (result, rest) => (result, { lexer with rest })

/-- Gives up unless a condition holds. -/
def require (holds : Bool) : Lexing Unit := if holds then pure () else throw .malformed

/-- Adds a token. -/
def emit (token : Token) : Lexing Unit :=
  modify fun lexer => { lexer with tokens := lexer.tokens.push token }

/-- Consumes characters that make up a token. -/
def emitMark (length : Nat) (token : Token) : Lexing Unit := do
  lift (Reading.skip length)
  emit token

/-- Says whether a key of one line may follow. -/
def allowKey (allowed : Bool) : Lexing Unit :=
  modify fun lexer => { lexer with keyAllowed := allowed }

/-- The column of what comes next. -/
def column : Lexing Int := do return (← get).rest.position.column

/-! ## Indentation -/

/-- Closes the collections in blocks that are indented by more than a column. -/
def closeTo (column : Int) : (outer : List Int) → Lexing Unit
  | [] => return ()
  | indent :: outer => do
    if column < (← get).indent then
      modify fun lexer => { lexer with indent, outer }
      emit .blockEnd
      closeTo column outer

/-- Closes the collections in blocks that are indented by more than a column, unless brackets are
open. -/
def unwind (column : Int) : Lexing Unit := do
  let lexer ← get
  if !lexer.inFlow then closeTo column lexer.outer

/-- Opens a collection at a column, if that is indented, and says whether it is. -/
def indentTo (column : Int) : Lexing Bool := do
  let lexer ← get
  if lexer.indent < column then
    set { lexer with indent := column, outer := lexer.indent :: lexer.outer }
    return true
  else return false

/-! ## Possible keys -/

/-- Gives up a possible key, which must not be a required one. -/
def dropKey : Lexing Unit := do
  let lexer ← get
  require !((lexer.key.map PossibleKey.required).getD false)
  set { lexer with key := none }

/-- Notes that a key may start here. -/
def markKey : Lexing Unit := do
  let lexer ← get
  if lexer.keyAllowed then
    dropKey
    let position := lexer.rest.position
    let required := !lexer.inFlow && lexer.indent == position.column
    modify fun lexer => { lexer with key := some ⟨lexer.tokens.size, required, position⟩ }

/-- A possible key that is not too far off. -/
def freshKey (here : Position) : Option PossibleKey → Lexing (Option PossibleKey)
  | none => return none
  | some key => do
    if key.isStale here then
      require !key.required
      return none
    else return some key

/-- Gives up the possible keys that are too far off. -/
def dropStaleKeys : Lexing Unit := do
  let lexer ← get
  let here := lexer.rest.position
  let outerKeys ← lexer.outerKeys.mapM (freshKey here)
  let key ← freshKey here lexer.key
  modify fun lexer => { lexer with key, outerKeys }

/-! ## Tokens -/

/-- Consumes spaces, comments and line ends. At a new line a key may start, except between
brackets. -/
def dropSpace : (steps : Nat) → Lexing Unit
  | 0 => throw .malformed
  | steps + 1 => do
    let line ← lift do
      let _ ← Reading.spaces
      Reading.comment
      Reading.lineBreak
    if !line.isEmpty then
      if !(← get).inFlow then allowKey true
      dropSpace steps

/-- What ends all collections in blocks: the end of the stream, a directive or a mark between
documents. -/
def endBlocks : Lexing Unit := do
  unwind (-1)
  dropKey
  allowKey false

/-- The end of the stream. -/
def streamEnd : Lexing Unit := do
  endBlocks
  modify fun lexer => { lexer with key := none, outerKeys := [] }
  emit .streamEnd

/-- A directive. -/
def directive : Lexing Unit := do
  endBlocks
  emit (.directive (← lift Reading.directive))

/-- A mark between documents. -/
def documentMark (token : Token) : Lexing Unit := do
  endBlocks
  emitMark 3 token

/-- An opening bracket. -/
def flowStart (token : Token) : Lexing Unit := do
  markKey
  modify fun lexer => { lexer with key := none, outerKeys := lexer.key :: lexer.outerKeys }
  allowKey true
  emitMark 1 token

/-- A closing bracket. -/
def flowEnd (token : Token) : Lexing Unit := do
  dropKey
  modify fun lexer =>
    { lexer with key := lexer.outerKeys.headD none, outerKeys := lexer.outerKeys.tail }
  allowKey false
  emitMark 1 token

/-- A comma. -/
def flowEntry : Lexing Unit := do
  allowKey true
  dropKey
  emitMark 1 .flowEntry

/-- Opens a collection in a block at the next character, where a key has to be allowed. -/
def openBlock (token : Token) : Lexing Unit := do
  let lexer ← get
  if !lexer.inFlow then
    require lexer.keyAllowed
    if ← indentTo (← column) then emit token

/-- The mark in front of an item. -/
def blockEntry : Lexing Unit := do
  openBlock .blockSequenceStart
  allowKey true
  dropKey
  emitMark 1 .blockEntry

/-- The mark in front of a key. -/
def key : Lexing Unit := do
  openBlock .blockMappingStart
  allowKey !(← get).inFlow
  dropKey
  emitMark 1 .key

/-- Turns a possible key into a key, and opens a mapping at it if it is indented. -/
def decideKey (key : PossibleKey) : Lexing Unit := do
  modify fun lexer => { lexer.insertAt key.tokens .key with key := none }
  if !(← get).inFlow then
    if ← indentTo key.position.column then
      modify fun lexer => lexer.insertAt key.tokens .blockMappingStart
  allowKey false

/-- The colon in front of a value. -/
def value : Lexing Unit := do
  match (← get).key with
  | some key => decideKey key
  | none =>
    openBlock .blockMappingStart
    allowKey !(← get).inFlow
    dropKey
  emitMark 1 .value

/-- A token that may start a key, and behind which no key may start. -/
def keyStart (token : Reading Token) : Lexing Unit := do
  markKey
  allowKey false
  emit (← lift token)

/-- A plain scalar. A key may follow it on a new line. -/
def plain : Lexing Unit := do
  markKey
  allowKey false
  let lexer ← get
  let (text, crossed) ← lift (Reading.plain lexer.inFlow (lexer.indent + 1))
  allowKey crossed
  emit (.scalar text true)

/-- A scalar in a block. -/
def block (folded : Bool) : Lexing Unit := do
  allowKey true
  dropKey
  emit (.scalar (← lift (Reading.block folded (← get).indent)) false)

/-- Whether a character may start a plain scalar whatever follows it. -/
def startsPlain (c : Char) : Bool :=
  !isBlank c && !isBreak c && !"-?:,[]\x7b\x7d#&*!|>'\"%@`".toList.contains c

/-- The token that starts with a character. -/
def tokenAt (c : Char) : Lexing Unit := do
  let lexer ← get
  let atLineStart := lexer.rest.position.column == 0
  let wordEnds ← lift do return endsWord (← Reading.ahead 1)
  if c == '%' && atLineStart then directive
  else if c == '-' && atLineStart && (← lift (Reading.atTriple '-')) then
    documentMark .documentStart
  else if c == '.' && atLineStart && (← lift (Reading.atTriple '.')) then
    documentMark .documentEnd
  else match c with
    | '[' => flowStart .flowSequenceStart
    | ']' => flowEnd .flowSequenceEnd
    | '\x7b' => flowStart .flowMappingStart
    | '\x7d' => flowEnd .flowMappingEnd
    | ',' => flowEntry
    | '*' => keyStart (Token.alias <$> Reading.nodeName)
    | '&' => keyStart (Token.anchor <$> Reading.nodeName)
    | '!' => keyStart (Token.tag <$> Reading.tag)
    | '\'' | '"' => keyStart ((Token.scalar · false) <$> Reading.quoted c)
    | '-' => if wordEnds then blockEntry else plain
    | '?' => if wordEnds || lexer.inFlow then key else plain
    | ':' => if wordEnds || lexer.inFlow then value else plain
    | '|' => if lexer.inFlow then throw .malformed else block false
    | '>' => if lexer.inFlow then throw .malformed else block true
    | c => if startsPlain c then plain else throw .malformed

/-- Reads on until there is another token, and says whether it is the end of the stream. -/
def fetch : Lexing Bool := do
  dropSpace (← get).limit
  dropStaleKeys
  unwind (← column)
  match ← lift Reading.next with
  | none =>
    streamEnd
    return true
  | some c =>
    tokenAt c
    -- The character behind a token is looked at, so that a fault there is met now.
    let _ ← lift Reading.next
    dropStaleKeys
    return false

end Lexing

/-- The tokens of a document. -/
structure TokenStream where
  /-- The tokens up to the end of the stream or up to a fault. -/
  tokens : List Token
  /-- What is wrong behind the last token. -/
  fault : Option Fault
  deriving Repr, DecidableEq

namespace TokenStream

/-- The tokens that are read in some steps, of which each adds one at least. -/
def fetchAll : (steps : Nat) → Lexer → TokenStream
  | 0, lexer => ⟨lexer.tokens.toList.take lexer.settled, some .malformed⟩
  | steps + 1, lexer =>
    match Lexing.fetch lexer with
    | .error fault => ⟨lexer.tokens.toList.take lexer.settled, some fault⟩
    | .ok (true, lexer) => ⟨lexer.tokens.toList, none⟩
    | .ok (false, lexer) => fetchAll steps lexer

/-- A source without a byte order mark at its head. -/
def dropByteOrderMark : Source → Source
  | .char '\uFEFF' _ rest => rest
  | source => source

/-- The tokens of a document. -/
def ofSource (source : Source) : TokenStream :=
  let limit := source.size + 1
  fetchAll limit { rest := dropByteOrderMark source, limit }

end TokenStream

end DesignLint.Yaml
