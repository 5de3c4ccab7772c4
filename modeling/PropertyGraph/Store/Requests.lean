import PropertyGraph.Cypher.RelationStatement

/-!
# Requests

What a caller asks of a store.  Requests that name an identity alone are identities, and requests
that select things and nothing else are a `NodeSelector` or a `RelationSelector`; the others are
here.

## Main definitions

* `NodeCreation`, `NodeChange`, `NodeSearch`, `NodeProbe` — requests about nodes.
* `RelationCreation`, `RelationChange`, `RelationSearch`, `RelationProbe` — requests about
  relationships.
* `EntityChange` — a change of one node or relationship by identity.
* `EndSearch` — a search for the nodes at the ends of relationships.
* `RawQuery` — a query in the caller's own words.
-/

namespace PropertyGraph

/-- A node to create. -/
structure NodeCreation where
  /-- The labels; without any, the store gives the node its default label. -/
  labels : List String := []
  /-- The properties. -/
  data : Properties := ∅
  deriving Inhabited

/-- Properties to set on the nodes of a selector. -/
structure NodeChange where
  /-- The nodes. -/
  nodes : NodeSelector := {}
  /-- The properties. -/
  data : Properties := ∅
  deriving Inhabited

/-- Nodes to list. -/
structure NodeSearch where
  /-- The nodes. -/
  nodes : NodeSelector := {}
  /-- The order and the part of the list. -/
  paging : Option Paging := none
  deriving Inhabited

/-- A node whose existence is asked for.  An identity that is not negative decides alone. -/
structure NodeProbe where
  /-- The identity. -/
  id : Option Identity := none
  /-- The labels and properties. -/
  nodes : NodeSelector := {}
  deriving Inhabited

/-- Properties to set on the node or the relationship with an identity. -/
structure EntityChange where
  /-- The identity. -/
  id : Identity
  /-- The properties. -/
  data : Properties := ∅
  deriving Inhabited

/-- A relationship to create between all nodes of its endpoints. -/
structure RelationCreation where
  /-- The side where it starts. -/
  source : Endpoint := .any
  /-- The type. -/
  relType : Option String := none
  /-- The side where it ends. -/
  target : Endpoint := .any
  /-- The properties. -/
  data : Properties := ∅
  deriving Inhabited

/-- Properties to set on the relationships of a selector. -/
structure RelationChange where
  /-- The relationships. -/
  relations : RelationSelector := {}
  /-- The properties. -/
  data : Properties := ∅
  deriving Inhabited

/-- Relationships to list. -/
structure RelationSearch where
  /-- The relationships. -/
  relations : RelationSelector := {}
  /-- The order and the part of the list. -/
  paging : Option Paging := none
  deriving Inhabited

/-- A relationship whose existence is asked for.  An identity that is not negative decides alone. -/
structure RelationProbe where
  /-- The identity. -/
  id : Option Identity := none
  /-- The side where the relationship starts. -/
  source : Endpoint := .any
  /-- The type. -/
  relType : Option String := none
  /-- The side where the relationship ends. -/
  target : Endpoint := .any
  /-- Whether the relationship may go either way. -/
  eitherWay : Bool := false
  deriving Inhabited

/-- The relationships that a probe asks for, whatever their properties. -/
def RelationProbe.relations (p : RelationProbe) : RelationSelector :=
  ⟨p.source, p.relType, p.target, p.eitherWay, none⟩

/-- Nodes at one end of relationships whose other end is known. -/
structure EndSearch where
  /-- The known end. -/
  known : Endpoint := .any
  /-- The type of the relationships. -/
  relType : Option String := none
  /-- The properties of the relationships. -/
  filter : Option Properties := none
  /-- The order and the part of the list. -/
  paging : Option Paging := none
  deriving Inhabited

/-- A query in the caller's own words. -/
structure RawQuery where
  /-- The text of the query. -/
  text : String := ""
  /-- The values of its placeholders. -/
  params : Option Properties := none
  deriving Inhabited

end PropertyGraph
