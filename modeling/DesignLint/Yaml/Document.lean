import DesignLint.Yaml.Blocks
import DesignLint.Yaml.Node.OfTokens
import DesignLint.Yaml.Unfolding

/-! # Documents with settings

A `Reader` reads YAML files as far as settings need them: whether a file is a mapping, and the keys
and values of that mapping. `Document.ofBytes` does so by the rules of the language, which leave
open how a file that breaks them is explained and in which order the members of a set come;
`Document.reader explain` is a reader with explanations, in which sets keep the order in which they
are written. -/

namespace DesignLint.Yaml

/-- What a document holds. -/
inductive Document where
  /-- Nothing, or a null. -/
  | empty
  /-- A mapping. The values of its entries are opened: their members are unfolded one by one. -/
  | mapping (entries : List (Value × Value))
  /-- Something else. -/
  | other
  deriving Repr

/-- What reads YAML files. -/
abbrev Reader := List UInt8 → Except Fault Document

namespace Document

/-- What the object of a root node holds. -/
def ofHeap (heap : Heap) (root : NodeId) : Document :=
  match heap.object? root with
  | some (.atom .null) => empty
  | some (.mapping entries) => mapping (heap.entryValues entries)
  | _ => other

/-- What a source holds. -/
def ofSource (source : Source) : Except Fault Document := do
  match ← Graph.ofTokens (.ofSource source) with
  | (_, none) => return empty
  | (graph, some root) => return ofHeap (← Heap.ofGraph graph root) root

/-- What a file holds. A rule that is broken is not explained. -/
def ofBytes : Reader := fun bytes => ofSource (.ofBytes bytes)

/-- The reader that explains the files that break a rule. -/
def reader (explain : List UInt8 → Text) : Reader := fun bytes =>
  (ofBytes bytes).mapError (.explained (explain bytes))

end Document

end DesignLint.Yaml
