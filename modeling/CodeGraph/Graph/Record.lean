import CodeGraph.Document.Access

/-!
# Nodes and edges

The records that a graph is made of. Types are open: any text names a type of nodes or edges, and
the ones that the analyses ask for are listed here.

Main statement:

- `Edge.same_iff`: edges are compared by their ends, their type and the value of their metadata.
-/
namespace CodeGraph

/-- What is known about a node or an edge besides its identity. -/
abbrev Metadata := List (Key × Value)

/-- A node: a module, a function, a repository or anything else that edges join. -/
structure Node where
  id : String
  type : String
  name : String
  metadata : Metadata := []
  deriving Repr, Inhabited

/-- A directed edge of some type between two nodes. -/
structure Edge where
  source : String
  target : String
  type : String
  metadata : Metadata := []
  deriving Repr, Inhabited

namespace NodeType

/-- The type of functions. -/
def function : String := "function"

/-- The type of repositories. -/
def repo : String := "repo"

/-- The type of packages that are no repository of the graph. -/
def dependency : String := "dependency"

/-- The type of imported modules that nothing declares. -/
def external : String := "external"

end NodeType

namespace EdgeType

/-- One function calls another. -/
def calls : String := "calls"

/-- One module imports another. -/
def imports : String := "imports"

/-- One module uses another. -/
def uses : String := "uses"

/-- One module gives another a second name. -/
def aliases : String := "alias"

/-- A module defines a function. -/
def defines : String := "defines"

/-- A repository needs another one, or a package, to run. -/
def dependsOn : String := "depends_on"

/-- A repository needs another one, or a package, for development. -/
def devDependsOn : String := "dev_depends_on"

/-- The types of edges from a module to what it refers to. -/
def importLike : List String := [imports, uses, aliases]

/-- The types of edges from a repository to what it needs, in alphabetical order. -/
def dependencyLike : List String := [dependsOn, devDependsOn]

end EdgeType

/-- The metadata that a value stands for; what counts as absent stands for none. -/
def Metadata.ofValue (v : Value) : Except Fault Metadata :=
  if v.isEmptyLike then .ok [] else v.mapping

/-- The metadata under a name. -/
def Metadata.get? (m : Metadata) (name : String) : Option Value := Value.lookup? (.text name) m

namespace Node

/-- The node that a value describes. A node without a name goes by its id. -/
def ofValue (v : Value) : Except Fault Node := do
  let id ← v.item "id"
  let type ← v.item "type"
  let name ← v.get "name"
  let metadata ← v.get "metadata"
  let metadata ← Metadata.ofValue metadata
  return ⟨id.display, type.display, (name.orElse id).display, metadata⟩

/-- A node as a value. -/
def toValue (n : Node) : Value :=
  .record [("id", .text n.id), ("type", .text n.type), ("name", .text n.name),
    ("metadata", .object n.metadata)]

end Node

namespace Edge

/-- The edge that a value describes. -/
def ofValue (v : Value) : Except Fault Edge := do
  let source ← v.item "source"
  let target ← v.item "target"
  let type ← v.item "type"
  let metadata ← v.get "metadata"
  let metadata ← Metadata.ofValue metadata
  return ⟨source.display, target.display, type.display, metadata⟩

/-- An edge as a value. -/
def toValue (e : Edge) : Value :=
  .record [("source", .text e.source), ("target", .text e.target), ("type", .text e.type),
    ("metadata", .object e.metadata)]

/-- Whether two edges are equal: the same ends, the same type, and metadata of equal value. A value
in it that is no number is equal to itself only. -/
def same (e f : Edge) : Bool :=
  e.source == f.source && e.target == f.target && e.type == f.type &&
    (Value.object e.metadata).same (.object f.metadata)

theorem same_iff {e f : Edge} :
    e.same f = true ↔ e.source = f.source ∧ e.target = f.target ∧ e.type = f.type ∧
      (Value.object e.metadata).same (.object f.metadata) = true := by
  simp [same, and_assoc]

theorem same_refl (e : Edge) : e.same e = true :=
  same_iff.2 ⟨rfl, rfl, rfl, Value.same_refl _⟩

end Edge

end CodeGraph
