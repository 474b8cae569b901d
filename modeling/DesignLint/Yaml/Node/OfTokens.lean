import DesignLint.Yaml.Node
import DesignLint.Yaml.Scalar
import DesignLint.Yaml.Token.Stream

/-! # Node graphs from tokens

`Graph.ofTokens stream` puts the tokens of a document together to its graph. A stream holds at most
one document. Names of nodes are known from their node on, also inside it. -/

namespace DesignLint.Yaml

/-- A graph in the making. -/
structure Composer where
  /-- The tokens that are not used yet. -/
  tokens : List Token
  /-- What is wrong behind the last token. -/
  fault : Option Fault
  /-- The namespaces by their short names. -/
  namespaces : List (Text × Text) := []
  /-- The named nodes. -/
  anchors : List (Text × NodeId) := []
  /-- The nodes. -/
  graph : Graph := #[]

/-- Putting tokens together. -/
abbrev Composing := StateT Composer (Except Fault)

/-- The namespaces that need no directive. -/
def defaultNamespaces : List (Text × Text) := [(['!'], ['!']), (['!', '!'], Tag.standardNamespace)]

/-- Where a node stands. -/
inductive Place where
  /-- In a block. -/
  | block
  /-- In an entry of a mapping in a block, where a sequence needs no indentation. -/
  | blockEntry
  /-- Between brackets. -/
  | flow
  deriving Repr, DecidableEq

namespace Composing

/-- Gives up. -/
def malformed {α : Type} : Composing α := throw .malformed

/-- The next token, which stays. -/
def peek : Composing Token := do
  let composer ← get
  match composer.tokens with
  | token :: _ => return token
  | [] => throw (composer.fault.getD .malformed)

/-- Uses the next token. -/
def take : Composing Unit := modify fun composer => { composer with tokens := composer.tokens.tail }

/-- Uses the next token, which has to be the given one. -/
def expect (token : Token) : Composing Unit := do
  if (← peek) == token then take else malformed

/-- Adds a node. -/
def add (node : Node) : Composing NodeId := do
  let id := (← get).graph.size
  modify fun composer => { composer with graph := composer.graph.push node }
  return id

/-- The tag with a written name. -/
def tagText (name : TagName) : Composing Text := do
  match name.handle with
  | none => return name.suffix
  | some handle =>
    match (← get).namespaces.lookup handle with
    | some full => return full ++ name.suffix
    | none => malformed

/-- The name and the tag in front of a node, in any order. -/
def properties : Composing (Option Text × Option TagName) := do
  match ← peek with
  | .anchor name =>
    take
    match ← peek with
    | .tag tag =>
      take
      return (some name, some tag)
    | _ => return (some name, none)
  | .tag tag =>
    take
    match ← peek with
    | .anchor name =>
      take
      return (some name, some tag)
    | _ => return (none, some tag)
  | _ => return (none, none)

/-- The tag of a scalar. Only a plain text or an exclamation mark lets the text decide. -/
def scalarTag (tag : Option Text) (text : Text) (plain : Bool) : Tag :=
  match tag with
  | none => if plain then .ofPlain text else .str
  | some name => if name = ['!'] then .ofPlain text else .ofText name

/-- The tag of a collection. -/
def collectionTag (tag : Option Text) (usual : Tag) : Tag :=
  match tag with
  | none => usual
  | some name => if name = ['!'] then usual else .ofText name

/-- A node that is empty. -/
def emptyNode : Composing NodeId := add ⟨.ofPlain [], .scalar []⟩

/-- Adds a node under a name, which must be new. -/
def addNamed (name : Option Text) (node : Node) : Composing NodeId := do
  match name with
  | none => add node
  | some name =>
    if ((← get).anchors.lookup name).isSome then malformed
    else
      let id ← add node
      modify fun composer => { composer with anchors := (name, id) :: composer.anchors }
      return id

/-- A node whose content is put together once the node has its number. -/
def collection (name : Option Text) (tag : Tag) (empty : Content) (content : Composing Content) :
    Composing NodeId := do
  let id ← addNamed name ⟨tag, empty⟩
  let content ← content
  modify fun composer => { composer with graph := composer.graph.setContent id content }
  return id

/-- Whether a token leaves an entry of a mapping in a block empty. -/
def endsBlockEntry (token : Token) : Bool :=
  token == .key || token == .value || token == .blockEnd

/-- Whether a token leaves an item of a sequence in a block empty. -/
def endsBlockItem (token : Token) : Bool := token == .blockEntry || token == .blockEnd

/-- Whether a token leaves a value between brackets empty. -/
def endsFlowEntry (close token : Token) : Bool := token == .flowEntry || token == close

mutual

/-- A node. -/
def node (place : Place) : (steps : Nat) → Composing NodeId
  | 0 => malformed
  | steps + 1 => do
    match ← peek with
    | .alias name =>
      take
      match (← get).anchors.lookup name with
      | some id => return id
      | none => malformed
    | _ =>
      let (name, written) ← properties
      let tag ← written.mapM tagText
      let sequence (items : Composing (List NodeId)) : Composing NodeId :=
        collection name (collectionTag tag .seq) (.sequence []) (.sequence <$> items)
      let mapping (entries : Composing (List (NodeId × NodeId))) : Composing NodeId :=
        collection name (collectionTag tag .map) (.mapping []) (.mapping <$> entries)
      match ← peek, place with
      | .scalar text plain, _ =>
        take
        addNamed name ⟨scalarTag tag text plain, .scalar text⟩
      | .flowSequenceStart, _ => sequence (take *> flowItems true steps)
      | .flowMappingStart, _ => mapping (take *> flowEntries true steps)
      | .blockEntry, .blockEntry => sequence (indentlessItems steps)
      | .blockSequenceStart, .block | .blockSequenceStart, .blockEntry =>
        sequence (take *> blockItems steps)
      | .blockMappingStart, .block | .blockMappingStart, .blockEntry =>
        mapping (take *> blockEntries steps)
      | _, _ =>
        if name.isSome || tag.isSome then addNamed name ⟨scalarTag tag [] true, .scalar []⟩
        else malformed

/-- The items of a sequence in a block. -/
def blockItems : (steps : Nat) → Composing (List NodeId)
  | 0 => malformed
  | steps + 1 => do
    match ← peek with
    | .blockEntry =>
      take
      let item ← if endsBlockItem (← peek) then emptyNode else node .block steps
      return item :: (← blockItems steps)
    | _ =>
      expect .blockEnd
      return []

/-- The items of a sequence that is not indented. -/
def indentlessItems : (steps : Nat) → Composing (List NodeId)
  | 0 => malformed
  | steps + 1 => do
    match ← peek with
    | .blockEntry =>
      take
      let following ← peek
      let item ←
        if endsBlockItem following || endsBlockEntry following then emptyNode
        else node .block steps
      return item :: (← indentlessItems steps)
    | _ => return []

/-- The entries of a mapping in a block. A key or a value may be missing. -/
def blockEntries : (steps : Nat) → Composing (List (NodeId × NodeId))
  | 0 => malformed
  | steps + 1 => do
    match ← peek with
    | .key =>
      take
      let key ← if endsBlockEntry (← peek) then emptyNode else node .blockEntry steps
      let value ← blockValue steps
      return (key, value) :: (← blockEntries steps)
    | _ =>
      expect .blockEnd
      return []

/-- The value of an entry of a mapping in a block. -/
def blockValue : (steps : Nat) → Composing NodeId
  | 0 => malformed
  | steps + 1 => do
    match ← peek with
    | .value =>
      take
      if endsBlockEntry (← peek) then emptyNode else node .blockEntry steps
    | _ => emptyNode

/-- The items of a sequence between brackets, from the `first` one on or from a comma on. An item
with a key is a mapping of one entry. -/
def flowItems (first : Bool) : (steps : Nat) → Composing (List NodeId)
  | 0 => malformed
  | steps + 1 => do
    if (← peek) == .flowSequenceEnd then
      take
      return []
    else
      if !first then expect .flowEntry
      match ← peek with
      | .key =>
        let item ← collection none .map (.mapping []) do
          take
          let key ← flowNode .flowSequenceEnd true steps
          let value ← flowValue .flowSequenceEnd steps
          let _ ← peek
          return .mapping [(key, value)]
        return item :: (← flowItems false steps)
      | .flowSequenceEnd =>
        take
        return []
      | _ =>
        let item ← node .flow steps
        return item :: (← flowItems false steps)

/-- The entries of a mapping between braces, from the `first` one on or from a comma on. An entry
without a mark for its key has no value. -/
def flowEntries (first : Bool) : (steps : Nat) → Composing (List (NodeId × NodeId))
  | 0 => malformed
  | steps + 1 => do
    if (← peek) == .flowMappingEnd then
      take
      return []
    else
      if !first then expect .flowEntry
      match ← peek with
      | .key =>
        take
        let key ← flowNode .flowMappingEnd true steps
        let value ← flowValue .flowMappingEnd steps
        return (key, value) :: (← flowEntries false steps)
      | .flowMappingEnd =>
        take
        return []
      | _ =>
        let key ← node .flow steps
        let _ ← peek
        let value ← emptyNode
        return (key, value) :: (← flowEntries false steps)

/-- A key or a value between brackets, which may be missing; a key is missing also in front of a
value. -/
def flowNode (close : Token) (isKey : Bool) : (steps : Nat) → Composing NodeId
  | 0 => malformed
  | steps + 1 => do
    let following ← peek
    if endsFlowEntry close following || (isKey && following == .value) then emptyNode
    else node .flow steps

/-- The value of an entry between brackets. -/
def flowValue (close : Token) : (steps : Nat) → Composing NodeId
  | 0 => malformed
  | steps + 1 => do
    match ← peek with
    | .value =>
      take
      flowNode close false steps
    | _ => emptyNode

end

/-! ## Documents -/

/-- The number of calls that may come between two tokens. -/
def callsPerToken : Nat := 4

/-- More steps than putting the tokens together can take. -/
def steps : Composing Nat := do return callsPerToken * ((← get).tokens.length + 2)

/-- Reads the directives in front of a document. -/
def directives (versioned : Bool) (named : List (Text × Text)) : (steps : Nat) → Composing Unit
  | 0 => malformed
  | steps + 1 => do
    match ← peek with
    | .directive d =>
      take
      match d with
      | .version major =>
        if versioned || major ≠ 1 then malformed else directives true named steps
      | .tag handle beginning =>
        if (named.lookup handle).isSome then malformed
        else directives versioned ((handle, beginning) :: named) steps
      | .other => directives versioned named steps
    | _ => modify fun composer => { composer with namespaces := named ++ defaultNamespaces }

/-- Uses the marks for ends of documents. -/
def documentEnds : (steps : Nat) → Composing Unit
  | 0 => malformed
  | steps + 1 => do
    if (← peek) == .documentEnd then
      take
      documentEnds steps

/-- Uses what stands in front of a marked document, and says whether there is one. -/
def documentStart : Composing Bool := do
  documentEnds (← steps)
  if (← peek) == .streamEnd then return false
  else
    directives false [] (← steps)
    expect .documentStart
    return true

/-- Whether a token leaves a marked document empty. -/
def endsDocument : Token → Bool
  | .directive _ | .documentStart | .documentEnd | .streamEnd => true
  | _ => false

/-- The root of the document, if there is one. The first document needs no mark. -/
def root : Composing (Option NodeId) := do
  match ← peek with
  | .directive _ | .documentStart | .streamEnd =>
    if ← documentStart then
      if endsDocument (← peek) then some <$> emptyNode else some <$> node .block (← steps)
    else return none
  | _ =>
    modify fun composer => { composer with namespaces := defaultNamespaces }
    some <$> node .block (← steps)

/-- The root of the only document in the stream, if there is one. -/
def document : Composing (Option NodeId) := do
  let root ← root
  if root.isSome then
    if (← peek) == .documentEnd then take
    if ← documentStart then malformed
  return root

end Composing

/-- The graph of the document in a stream of tokens with the number of its root; the stream may
hold no document. -/
def Graph.ofTokens (stream : TokenStream) : Except Fault (Graph × Option NodeId) :=
  (Composing.document { tokens := stream.tokens, fault := stream.fault }).map
    fun (root, composer) => (composer.graph, root)

end DesignLint.Yaml
