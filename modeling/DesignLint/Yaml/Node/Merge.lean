import DesignLint.Yaml.Fault
import DesignLint.Yaml.Node

/-! # Merged mappings

A mapping may take over the entries of others under the merge key. `Graph.flatten` puts these
entries in front of its own, where its own ones win, and turns keys that only mark a value into
texts. -/

namespace DesignLint.Yaml.Graph

/-- The nodes behind the first merge key of a mapping, which loses this entry. -/
def takeMerge? (graph : Graph) (id : NodeId) : Option (NodeId × Graph) := do
  let entries ← graph.entries? id
  let isMerge (entry : NodeId × NodeId) : Bool := graph.tag entry.1 == .merge
  let (_, value) ← entries.find? isMerge
  return (value, graph.setContent id (.mapping (entries.eraseP isMerge)))

/-- The mappings to be merged: the node itself, or the items of a sequence, the last one first. -/
def mergeSources (graph : Graph) (value : NodeId) : Except Fault (List NodeId) :=
  match graph.entries? value, graph.items? value with
  | some _, _ => .ok [value]
  | none, some items => .ok items
  | none, none => .error .malformed

/-- Turns the keys of a mapping that only mark a value into texts. -/
def retagKeys (graph : Graph) (entries : List (NodeId × NodeId)) : Graph :=
  entries.foldl (fun graph entry =>
    if graph.tag entry.1 = .value then graph.setTag entry.1 .str else graph) graph

mutual

/-- Merges what a mapping takes over into it. Every merge key is dropped before it is followed, so
a mapping that takes over itself finds only its other entries. -/
def flatten : (steps : Nat) → NodeId → Graph → Except Fault Graph
  | 0, _, _ => .error .malformed
  | steps + 1, id, graph => do
    let (merged, graph) ← mergedEntries steps id graph
    let own := (graph.entries? id).getD []
    return (graph.setContent id (.mapping (merged ++ own))).retagKeys own

/-- The entries that a mapping takes over, in the order of its merge keys. -/
def mergedEntries : (steps : Nat) → NodeId → Graph →
    Except Fault (List (NodeId × NodeId) × Graph)
  | 0, _, _ => .error .malformed
  | steps + 1, id, graph =>
    match graph.takeMerge? id with
    | none => .ok ([], graph)
    | some (value, graph) => do
      let sources ← graph.mergeSources value
      let (merged, graph) ← flattenAll steps sources graph
      let (more, graph) ← mergedEntries steps id graph
      return (merged ++ more, graph)

/-- The entries of flattened mappings, those of the last mapping first. -/
def flattenAll : (steps : Nat) → List NodeId → Graph →
    Except Fault (List (NodeId × NodeId) × Graph)
  | 0, _, _ => .error .malformed
  | _, [], graph => .ok ([], graph)
  | steps + 1, id :: rest, graph =>
    match graph.entries? id with
    | none => .error .malformed
    | some _ => do
      let graph ← flatten steps id graph
      let entries := (graph.entries? id).getD []
      let (others, graph) ← flattenAll steps rest graph
      return (others ++ entries, graph)

end

/-- The number of entries and items of all nodes. -/
def extent (graph : Graph) : Nat :=
  graph.foldl (fun n node =>
    match node.content with
    | .scalar _ => n
    | .sequence items => n + items.length
    | .mapping entries => n + entries.length) 0

/-- More steps than flattening a mapping can take: every merge key is followed once, and each time
all items of one sequence may be gone through. -/
def mergeSteps (graph : Graph) : Nat := (graph.extent + 2) * (graph.extent + 4)

end DesignLint.Yaml.Graph
