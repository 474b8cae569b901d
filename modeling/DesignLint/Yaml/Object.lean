import DesignLint.Association
import DesignLint.Yaml.Node.Merge
import DesignLint.Yaml.Scalar

/-! # Objects of a document

Every node of a document becomes an object: an atom, or a container of the objects of other nodes.
Containers are made empty and filled in the order in which they are met, the outer ones first, so
that they may contain themselves. -/

namespace DesignLint.Yaml

/-- What a node stands for. -/
inductive Object where
  /-- A value without members. -/
  | atom (value : Value)
  /-- The one value that is no number and is written as such. -/
  | notANumber
  /-- The objects of nodes in order. -/
  | list (items : List NodeId)
  /-- Pairs of objects of nodes in order. -/
  | pairs (items : List (NodeId × NodeId))
  /-- Keys with values, in the order of their first arrival. -/
  | mapping (entries : List (NodeId × NodeId))
  /-- Distinct objects of nodes, in the order of their first arrival; the language has no order. -/
  | set (members : List NodeId)

/-- The nodes whose objects an object holds. -/
def Object.members : Object → List NodeId
  | atom _ | notANumber => []
  | list items => items
  | pairs items | mapping items => items.flatMap fun (key, value) => [key, value]
  | set members => members

/-- The objects of a document by the numbers of their nodes. -/
abbrev Heap := Array (Option Object)

namespace Heap

/-- The object of a node. -/
def object? (heap : Heap) (id : NodeId) : Option Object := (heap[id]?).join

/-- Whether an object may be a key. -/
def isKey (heap : Heap) (id : NodeId) : Bool :=
  match heap.object? id with
  | some (.atom _) | some .notANumber => true
  | _ => false

/-- Whether the objects of two nodes are one key. -/
def sameKey (heap : Heap) (a b : NodeId) : Bool :=
  a == b ||
    match heap.object? a, heap.object? b with
    | some (.atom v), some (.atom w) => v.sameKey w
    | some .notANumber, some .notANumber => true
    | _, _ => false

end Heap

/-- A document whose nodes are turned into objects. -/
structure Builder where
  /-- The nodes. -/
  graph : Graph
  /-- The objects that are made. -/
  heap : Heap
  /-- The nodes whose containers are still empty, the next one first. -/
  waiting : List NodeId := []

/-- Turning nodes into objects. -/
abbrev Building := StateT Builder (Except Fault)

namespace Building

/-- Gives up. -/
def malformed {α : Type} : Building α := throw .malformed

/-- Notes the object of a node. -/
def store (id : NodeId) (object : Object) : Building Unit :=
  modify fun builder => { builder with heap := builder.heap.setIfInBounds id (some object) }

/-- Notes an empty container for a node. -/
def hold (id : NodeId) (object : Object) : Building Unit := do
  store id object
  modify fun builder => { builder with waiting := builder.waiting ++ [id] }

/-- The text of a node, which is a scalar or a mapping with a key that marks its value. -/
def textFrom (graph : Graph) : (steps : Nat) → NodeId → Except Fault Text
  | 0, _ => .error .malformed
  | steps + 1, id =>
    match graph[id]? with
    | some ⟨_, .scalar s⟩ => .ok s
    | some ⟨_, .mapping entries⟩ =>
      match entries.find? fun entry => graph.tag entry.1 == .value with
      | some (_, value) => textFrom graph steps value
      | none => .error .malformed
    | _ => .error .malformed

/-- The text of a node. -/
def text (id : NodeId) : Building Text := do
  let graph := (← get).graph
  textFrom graph (graph.size + 1) id

/-- Notes the value of a node that an atom has. -/
def atom (id : NodeId) (value : Except Fault Value) : Building Unit := do store id (.atom (← value))

/-- Notes the object of a floating-point number. -/
def float (id : NodeId) (s : Text) : Building Unit := do
  let (_, body) ← Scalar.floatBody s
  if Scalar.isNaN body then store id .notANumber
  else atom id ((Scalar.float s).map .float)

/-- Notes the object of a day or a moment, which no mapping can stand for. -/
def timestamp (id : NodeId) (s : Text) : Building Unit := do
  if ((← get).graph.entries? id).isSome then throw .timestampMapping
  else atom id (Scalar.timestamp s)

/-- Makes the object of a node, unless it is made already. -/
def build (id : NodeId) : Building Unit := do
  if ((← get).heap.object? id).isNone then
    match (← get).graph.tag id with
    | .seq => hold id (.list [])
    | .map => hold id (.mapping [])
    | .set => hold id (.set [])
    | .omap | .pairs => hold id (.pairs [])
    | .null => do
      let _ ← text id
      store id (.atom .null)
    | .bool => do atom id ((Scalar.bool (← text id)).map .bool)
    | .int => do atom id ((Scalar.int (← text id)).map .int)
    | .float => do float id (← text id)
    | .binary => do atom id ((Scalar.binary (← text id)).map .bytes)
    | .timestamp => do timestamp id (← text id)
    | .str => do store id (.atom (.text (← text id)))
    | .merge | .value | .other => malformed

/-- Makes the objects of keys and values. Only atoms may be keys. -/
def buildEntries : List (NodeId × NodeId) → Building (List (NodeId × NodeId))
  | [] => return []
  | (key, value) :: rest => do
    build key
    if (← get).heap.isKey key then
      build value
      return (key, value) :: (← buildEntries rest)
    else malformed

/-- The entries of a mapping with the objects of its keys and values. -/
def mappingEntries (id : NodeId) : Building (List (NodeId × NodeId)) := do
  let builder ← get
  match builder.graph.entries? id with
  | none => malformed
  | some _ =>
    let graph ← builder.graph.flatten builder.graph.mergeSteps id
    set { builder with graph }
    let entries ← buildEntries ((graph.entries? id).getD [])
    return Association.ofList (← get).heap.sameKey entries

/-- The pairs of a sequence of mappings with one entry each. -/
def buildPairs : List NodeId → Building (List (NodeId × NodeId))
  | [] => return []
  | item :: rest => do
    match (← get).graph.entries? item with
    | some [(key, value)] =>
      build key
      build value
      return (key, value) :: (← buildPairs rest)
    | _ => malformed

/-- The items of a sequence. -/
def sequenceItems (id : NodeId) : Building (List NodeId) := do
  match (← get).graph.items? id with
  | some items => return items
  | none => malformed

/-- Fills the container of a node. -/
def fill (id : NodeId) : Building Unit := do
  match (← get).heap.object? id with
  | some (.list _) =>
    let items ← sequenceItems id
    items.forM build
    store id (.list items)
  | some (.pairs _) => do store id (.pairs (← buildPairs (← sequenceItems id)))
  | some (.mapping _) => do store id (.mapping (← mappingEntries id))
  | some (.set _) => do store id (.set ((← mappingEntries id).map (·.1)))
  | _ => return ()

/-- Fills containers until none is empty. Every node is filled once at most. -/
def fillAll : (steps : Nat) → Building Unit
  | 0 => return ()
  | steps + 1 => do
    let builder ← get
    match builder.waiting with
    | [] => return ()
    | id :: waiting =>
      set { builder with waiting }
      fill id
      fillAll steps

end Building

/-- The objects of a document that can be reached from a node. -/
def Heap.ofGraph (graph : Graph) (root : NodeId) : Except Fault Heap := do
  let building : Building Unit := do
    Building.build root
    Building.fillAll (graph.size + 1)
  let (_, builder) ← building { graph, heap := Array.replicate graph.size none }
  return builder.heap

end DesignLint.Yaml
