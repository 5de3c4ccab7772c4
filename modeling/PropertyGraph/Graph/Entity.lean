import PropertyGraph.Graph.Identity
import PropertyGraph.Graph.Properties

/-!
# Nodes and relationships

The two things that a property graph is made of.

## Main definitions

* `Node`, `Relation` — a node and a relationship.
* `Node.toJson`, `Relation.toJson` — how callers of a store see them.
* `Node.described`, `Relation.described` — how they look as values among others.
-/

namespace PropertyGraph

/-- A node of the graph. -/
structure Node where
  /-- The identity. -/
  id : Identity
  /-- The labels. -/
  labels : List String
  /-- The properties. -/
  properties : Properties
  deriving Inhabited

/-- A relationship of the graph. -/
structure Relation where
  /-- The identity. -/
  id : Identity
  /-- The type. -/
  relType : String
  /-- The node where it starts. -/
  source : Identity
  /-- The node where it ends. -/
  target : Identity
  /-- The properties. -/
  properties : Properties
  deriving Inhabited

namespace Node

/-- The labels as a JSON array. -/
def labelsJson (n : Node) : Json :=
  .array (n.labels.map .string)

/-- A node as the callers of a store see it. -/
def toJson (n : Node) : Json :=
  .object [
    ("id", n.id.toJson),
    ("labels", n.labelsJson),
    ("properties", n.properties.toJson)]

/-- A node as a value among others, which says that it is one. -/
def described (n : Node) : Json :=
  .object [
    ("type", .string "node"),
    ("identity", n.id.toJson),
    ("labels", n.labelsJson),
    ("properties", n.properties.toJson)]

end Node

namespace Relation

/-- A relationship as the callers of a store see it. -/
def toJson (r : Relation) : Json :=
  .object [
    ("id", r.id.toJson),
    ("type", .string r.relType),
    ("from", r.source.toJson),
    ("to", r.target.toJson),
    ("properties", r.properties.toJson)]

/-- A relationship as a value among others, which says that it is one. -/
def described (r : Relation) : Json :=
  .object [
    ("type", .string "relationship"),
    ("identity", r.id.toJson),
    ("start", r.source.toJson),
    ("end", r.target.toJson),
    ("relType", .string r.relType),
    ("properties", r.properties.toJson)]

end Relation

end PropertyGraph
