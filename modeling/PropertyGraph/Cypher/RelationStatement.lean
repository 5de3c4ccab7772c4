import PropertyGraph.Cypher.NodeStatement

/-!
# Statements on relationships

One statement for each thing that is done to relationships: creating them between two endpoints,
deleting, changing and finding them by a selector or by identity, and finding the nodes at their
ends.  What is created, or set by identity, is sent as parameters; everything else is written as
literals.

## Main definitions

* `RelationSelector` — the relationships with certain endpoints, a type and properties.
* `connect`, `deleteRelations`, `deleteRelation`, `setRelations`, `setRelation`,
  `findRelations`, `lookUpRelation` — statements on relationships.
* `findSources`, `findTargets`, `findNeighbours` — statements on the nodes at their ends.
-/

namespace PropertyGraph

/-- The relationships with certain endpoints, a type and properties. -/
structure RelationSelector where
  /-- The side where the relationship starts. -/
  source : Endpoint := .any
  /-- The type; an absent or empty one does not matter. -/
  relType : Option String := none
  /-- The side where the relationship ends. -/
  target : Endpoint := .any
  /-- Whether the relationship may go either way. -/
  eitherWay : Bool := false
  /-- The properties, all of which the relationship has; none when they do not matter. -/
  filter : Option Properties := none
  deriving Inhabited

namespace RelationSelector

/-- Both sides of a selector. -/
def ends (s : RelationSelector) : Cypher.Ends :=
  ⟨s.source, s.target, s.eitherWay⟩

/-- Whether the selector has a type or an endpoint; a filter alone does not count. -/
def isSelective (s : RelationSelector) : Bool :=
  s.relType.any (fun t => !t.isEmpty) || s.source.hasVariable || s.target.hasVariable

end RelationSelector

namespace Cypher

/-- The clauses that match the relationships of a selector.  The endpoints match also when there is
no relationship between them. -/
def matching (s : RelationSelector) (addressing : Addressing) : String :=
  s.ends.matched addressing .optional s.relType (filterLiterals s.filter)

/-- Creates a relationship between all nodes of its endpoints. -/
def connect (source : Endpoint) (relType : Option String) (target : Endpoint)
    (data : Properties) : Statement :=
  let ends : Ends := ⟨source, target, false⟩
  let drawing := ends.pattern relType (placeholders data)
  .binding (words [(ends.clauses .start).text, "CREATE " ++ drawing] ++ returning relation) data

/-- Deletes the relationships of a selector and counts them. -/
def deleteRelations (s : RelationSelector) : Statement :=
  ⟨matching s .start ++ deleting relation, none⟩

/-- Deletes the relationship with an identity and counts it. -/
def deleteRelation (id : Identity) : Statement :=
  ⟨Anchor.startRelation ⟨id, relation⟩ ++ deleting relation, none⟩

/-- Sets properties of the relationships of a selector.  The values are literals. -/
def setRelations (s : RelationSelector) (data : Properties) (mode : WriteMode) : Statement :=
  ⟨matching s .start ++ setting relation mode (literals data) ++ returning relation, none⟩

/-- Sets properties of the relationship with an identity. -/
def setRelation (id : Identity) (data : Properties) (mode : WriteMode) : Statement :=
  .binding (Anchor.startRelation ⟨id, relation⟩ ++ setting relation mode (payload data) ++
    returning relation) data

/-- Finds the relationships of a selector.  Identities are conditions here, so that both endpoints
can have one. -/
def findRelations (s : RelationSelector) (paging : Option Paging) : Statement :=
  ⟨matching s .condition ++ returningDistinct relation ++ Paging.suffix paging relation, none⟩

/-- Finds the relationship with an identity. -/
def lookUpRelation (id : Identity) : Statement :=
  ⟨"MATCH ()-[" ++ relation ++ "]-() " ++ Anchor.whereClause ⟨id, relation⟩ ++
    returningDistinct relation, none⟩

/-- Finds the nodes with the variable `var` of relationships that are there. -/
def findEnds (ends : Ends) (var : String) (relType : Option String) (filter : Option Properties)
    (paging : Option Paging) : Statement :=
  ⟨ends.matched .start .folded relType (filterLiterals filter) ++ returningDistinct var ++
    Paging.suffix paging var, none⟩

/-- Finds the nodes where relationships to an endpoint start. -/
def findSources (target : Endpoint) (relType : Option String) (filter : Option Properties)
    (paging : Option Paging) : Statement :=
  findEnds ⟨.unconditional, target, false⟩ node relType filter paging

/-- Finds the nodes where relationships from an endpoint end. -/
def findTargets (source : Endpoint) (relType : Option String) (filter : Option Properties)
    (paging : Option Paging) : Statement :=
  findEnds ⟨source, .unconditional, false⟩ otherNode relType filter paging

/-- Finds the nodes that have a relationship with an endpoint, whichever way it goes. -/
def findNeighbours (other : Endpoint) (relType : Option String) (filter : Option Properties)
    (paging : Option Paging) : Statement :=
  findEnds ⟨.unconditional, other, true⟩ node relType filter paging

end Cypher

end PropertyGraph
