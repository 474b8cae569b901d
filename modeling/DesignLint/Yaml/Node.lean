import DesignLint.Yaml.Tag

/-! # Node graphs

A document is a graph of nodes: scalars, sequences of nodes, and mappings of nodes to nodes. A node
may occur in several places, even inside itself. -/

namespace DesignLint.Yaml

/-- The number of a node in its graph. -/
abbrev NodeId := Nat

/-- What a node holds. -/
inductive Content where
  /-- A text. -/
  | scalar (text : Text)
  /-- Nodes in order. -/
  | sequence (items : List NodeId)
  /-- Keys with values in order. -/
  | mapping (entries : List (NodeId × NodeId))
  deriving Repr, DecidableEq

/-- A node. -/
structure Node where
  /-- What the node is. -/
  tag : Tag
  /-- What the node holds. -/
  content : Content
  deriving Repr, DecidableEq

/-- The nodes of a document by number. -/
abbrev Graph := Array Node

namespace Graph

/-- The entries of a node that is a mapping. -/
def entries? (graph : Graph) (id : NodeId) : Option (List (NodeId × NodeId)) :=
  match graph[id]? with
  | some ⟨_, .mapping entries⟩ => some entries
  | _ => none

/-- The items of a node that is a sequence. -/
def items? (graph : Graph) (id : NodeId) : Option (List NodeId) :=
  match graph[id]? with
  | some ⟨_, .sequence items⟩ => some items
  | _ => none

/-- The tag of a node. -/
def tag (graph : Graph) (id : NodeId) : Tag :=
  match graph[id]? with
  | some node => node.tag
  | none => .other

/-- Gives a node another content. -/
def setContent (graph : Graph) (id : NodeId) (content : Content) : Graph :=
  graph.modify id fun node => { node with content }

/-- Gives a node another tag. -/
def setTag (graph : Graph) (id : NodeId) (tag : Tag) : Graph :=
  graph.modify id fun node => { node with tag }

end Graph

end DesignLint.Yaml
