import PropertyGraph.Store.Requests
import PropertyGraph.Store.Column
import PropertyGraph.Store.ByCount
import PropertyGraph.Store.Settings

/-!
# Plans

What each operation of a store does with the database: it has its answer at once, or it runs one
statement and reads the answer from the rows.  A plan says which, before anything is run.

## Main definitions

* `Plan` — an answer, or a statement with a way to read its rows.
* `Plan.countColumn` — where the number of deleted things is looked for.
* `Plan.createNode` and the others — the plan of each operation.
-/

namespace PropertyGraph

/-- What an operation does with the database. -/
inductive Plan (α : Type) where
  /-- Nothing: the answer is there. -/
  | settled (answer : Except Failure α)
  /-- One statement, whose rows hold the answer. -/
  | query (statement : Statement) (read : List Row → Except Failure α)

namespace Plan

variable {α β : Type}

/-- The plan with its answer changed. -/
def map (f : α → β) : Plan α → Plan β
  | settled answer => settled (answer.map f)
  | query statement read => query statement fun rows => (read rows).map f

/-- The statement of the plan, if it runs one. -/
def statement? : Plan α → Option Statement
  | settled _ => none
  | query statement _ => some statement

/-- A plan for a list that is cut to a page.  A page that asks for nothing needs no statement. -/
def paged (paging : Option Paging) (plan : Plan α) : Plan (Option α) :=
  if paging.any (·.asksNothing) then settled (.ok none) else plan.map some

/-- Whether a list that was asked for has an item. -/
def found (items : Option (List α)) : Bool :=
  items.any fun items => !items.isEmpty

/-- The page of a check for existence. -/
def probePage : Paging := .first 1

/-- The column where the number of deleted things is looked for. -/
def countColumn : String := "count"

/-! ### Nodes -/

/-- Creates a node; without a label it gets the default label. -/
def createNode (settings : Settings) (r : NodeCreation) : Plan (Option Node) :=
  let labels := if r.labels.isEmpty then [settings.defaultLabel] else r.labels
  query (Cypher.createNode labels r.data) (Reader.node.first Cypher.node)

/-- Deletes the nodes of a selector and counts them. -/
def deleteNodes (s : NodeSelector) : Plan Nat :=
  query (Cypher.deleteNodes s) (Reader.total countColumn)

/-- Deletes the node with an identity and counts it. -/
def deleteNode (id : Identity) : Plan Nat :=
  query (Cypher.deleteNode id) (Reader.total countColumn)

/-- Sets properties of the nodes of a selector. -/
def setNodes (mode : WriteMode) (r : NodeChange) : Plan (ByCount Node) :=
  query (Cypher.setNodes r.nodes r.data mode) fun rows =>
    (Reader.node.every Cypher.node rows).map .ofList

/-- Sets properties of the node with an identity. -/
def setNode (mode : WriteMode) (r : EntityChange) : Plan (Option Node) :=
  query (Cypher.setNode r.id r.data mode) (Reader.node.first Cypher.node)

/-- Lists the nodes of a selector. -/
def findNodes (r : NodeSearch) : Plan (Option (List Node)) :=
  paged r.paging <| query (Cypher.findNodes r.nodes r.paging) (Reader.node.every Cypher.node)

/-- Finds the node with an identity. -/
def lookUpNode (id : Identity) : Plan (Option Node) :=
  query (Cypher.lookUpNode id) (Reader.node.first Cypher.node)

/-- Whether a node is there: the one with an identity that is not negative, or else one of a
selector that says something. -/
def nodeExists (r : NodeProbe) : Plan Bool :=
  match r.id.bind Identity.nonnegative? with
  | some id => (lookUpNode id).map (·.isSome)
  | none =>
    if r.nodes.isSelective then (findNodes ⟨r.nodes, some probePage⟩).map found
    else settled (.error (.noCriterion .node))

/-! ### Relationships -/

/-- Creates a relationship between all nodes of its endpoints. -/
def connect (r : RelationCreation) : Plan (List Relation) :=
  query (Cypher.connect r.source r.relType r.target r.data) (Reader.relation.every Cypher.relation)

/-- Sets properties of the relationships of a selector. -/
def setRelations (mode : WriteMode) (r : RelationChange) : Plan (List Relation) :=
  query (Cypher.setRelations r.relations r.data mode) (Reader.relation.every Cypher.relation)

/-- Sets properties of the relationship with an identity. -/
def setRelation (mode : WriteMode) (r : EntityChange) : Plan (Option Relation) :=
  query (Cypher.setRelation r.id r.data mode) (Reader.relation.first Cypher.relation)

/-- Deletes the relationships of a selector and counts them. -/
def deleteRelations (s : RelationSelector) : Plan Nat :=
  query (Cypher.deleteRelations s) (Reader.total countColumn)

/-- Deletes the relationship with an identity and counts it. -/
def deleteRelation (id : Identity) : Plan Nat :=
  query (Cypher.deleteRelation id) (Reader.total countColumn)

/-- Lists the relationships of a selector. -/
def findRelations (r : RelationSearch) : Plan (Option (List Relation)) :=
  paged r.paging <|
    query (Cypher.findRelations r.relations r.paging) (Reader.relation.every Cypher.relation)

/-- Lists the nodes where relationships to a known end start. -/
def findSources (r : EndSearch) : Plan (Option (List Node)) :=
  paged r.paging <|
    query (Cypher.findSources r.known r.relType r.filter r.paging) (Reader.node.every Cypher.node)

/-- Lists the nodes where relationships from a known end end. -/
def findTargets (r : EndSearch) : Plan (Option (List Node)) :=
  paged r.paging <|
    query (Cypher.findTargets r.known r.relType r.filter r.paging)
      (Reader.node.every Cypher.otherNode)

/-- Lists the nodes that have a relationship with a known one, whichever way it goes. -/
def findNeighbours (r : EndSearch) : Plan (Option (List Node)) :=
  paged r.paging <|
    query (Cypher.findNeighbours r.known r.relType r.filter r.paging)
      (Reader.node.every Cypher.node)

/-- Finds the relationship with an identity. -/
def lookUpRelation (id : Identity) : Plan (Option Relation) :=
  query (Cypher.lookUpRelation id) (Reader.relation.first Cypher.relation)

/-- Whether a relationship is there: the one with an identity that is not negative, or else one of a
selector that has a type or an endpoint. -/
def relationExists (r : RelationProbe) : Plan Bool :=
  match r.id.bind Identity.nonnegative? with
  | some id => (lookUpRelation id).map (·.isSome)
  | none =>
    if r.relations.isSelective then (findRelations ⟨r.relations, some probePage⟩).map found
    else settled (.error (.noCriterion .relation))

/-! ### Raw queries -/

/-- Runs a query in the caller's own words; parameters that hold nothing are left out. -/
def runQuery (r : RawQuery) : Plan (List Row) :=
  query ⟨r.text, r.params.bind (·.nonempty?)⟩ .ok

end Plan

end PropertyGraph
