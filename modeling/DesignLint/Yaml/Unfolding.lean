import DesignLint.Yaml.Object

/-! # Values of objects

An object is unfolded to a value, which is cut where it would repeat inside itself. A node may be
met in many places, so a value can be far larger than its document. `Heap.unfold` therefore makes
the value of a container once for all places where it comes out the same, and these places share
it. What a value comes out as depends on the enclosing containers only as far as they can be met
again inside it. -/

namespace DesignLint.Yaml

/-- A container around a value: that of a node, or one pair in it. -/
abbrev Enclosing := NodeId × Option Nat

/-- Unfolding objects. The values of containers that are made already are kept by the numbers of
their nodes, each with the enclosing containers that it is made for. -/
abbrev Unfolding := StateM (Array (List (List Enclosing × Value)))

/-- The shape of a container inside itself. -/
def Object.shape : Object → Shape
  | mapping _ => .mapping
  | _ => .list

namespace Heap

/-! ## Containers inside containers -/

/-- The containers among the members of a node. -/
def containers (heap : Heap) (id : NodeId) : List NodeId :=
  match heap.object? id with
  | some object => object.members.filter fun member => !heap.isKey member
  | none => []

/-- The number of objects and members, which bounds the depth of every unfolding and the length of
every search. -/
def extent (heap : Heap) : Nat :=
  heap.foldl (fun n object =>
    match object with
    | some object => n + object.members.length + 1
    | none => n + 1) 1

/-- Containers with those that are found already and with all that can be met inside them. -/
def search (heap : Heap) : (steps : Nat) → (found : List NodeId) → List NodeId → List NodeId
  | 0, found, _ => found
  | _, found, [] => found
  | steps + 1, found, id :: rest =>
    if found.contains id then heap.search steps found rest
    else heap.search steps (id :: found) (heap.containers id ++ rest)

/-- For every node the containers that can be met inside its object. -/
def inner (heap : Heap) : Array (List NodeId) :=
  let steps := heap.extent
  (Array.range heap.size).map fun id => heap.search steps [] (heap.containers id)

/-! ## Values -/

/-- The value of an object, where `member` makes the value of a member inside containers. The
containers around the object are `above`, those around its members are `inside`. -/
def assemble (member : List Enclosing → NodeId → Unfolding Value) (above inside : List Enclosing)
    (id : NodeId) : Object → Unfolding Value
  | .atom value => return value
  | .notANumber => return .float .nan
  | .list items => return .list (← items.mapM (member inside))
  | .pairs items => do
    return .list (← items.zipIdx.mapM fun ((key, value), index) => do
      let pair := (id, some index)
      if above.contains pair then return .again .pair
      else return .pair (← member (pair :: inside) key) (← member (pair :: inside) value))
  | .mapping entries => do
    return .mapping (← entries.mapM fun (key, value) => do
      return (← member inside key, ← member inside value))
  | .set members => return .set (← members.mapM (member inside))

/-- The value of the object of a node inside containers. -/
def unfold (heap : Heap) (inner : Array (List NodeId)) :
    (steps : Nat) → (above : List Enclosing) → NodeId → Unfolding Value
  | 0, _, _ => return .null
  | steps + 1, above, id => do
    match heap.object? id with
    | none => return .null
    | some object =>
      -- Whatever cannot be met again makes no difference, so that more places share a value.
      let above := above.filter fun (container, _) => (inner.getD id []).contains container
      match ((← get).getD id []).lookup above with
      | some value => return value
      | none =>
        let value ←
          if above.contains (id, none) then pure (.again object.shape)
          else assemble (heap.unfold inner steps) above ((id, none) :: above) id object
        modify fun made => made.modify id ((above, value) :: ·)
        return value

/-- The values of keys and values of a mapping. The values are opened: every member of them is
unfolded by itself. -/
def entryValues (heap : Heap) (entries : List (NodeId × NodeId)) : List (Value × Value) :=
  let member := heap.unfold heap.inner heap.extent
  let opened (id : NodeId) : Unfolding Value :=
    match heap.object? id with
    | some object => assemble member [] [] id object
    | none => return .null
  let unfolding : Unfolding (List (Value × Value)) := entries.mapM fun (key, value) => do
    return (← member [] key, ← opened value)
  (unfolding (Array.replicate heap.size [])).1

end Heap

end DesignLint.Yaml
