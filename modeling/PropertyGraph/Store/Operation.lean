import PropertyGraph.Store.Plan

/-!
# Operations

Every operation of a store as a value, with its request, and the answers that operations give.

## Main definitions

* `Operation` — an operation with its request.
* `Answer` — what an operation gives.
* `Operation.plan` — what an operation does with the database.
-/

namespace PropertyGraph

/-- An operation of a store with its request. -/
inductive Operation where
  /-- Creates a node. -/
  | createNode (request : NodeCreation)
  /-- Deletes the nodes of a selector. -/
  | deleteNodes (nodes : NodeSelector)
  /-- Deletes the node with an identity. -/
  | deleteNode (id : Identity)
  /-- Sets properties of the nodes of a selector. -/
  | setNodes (mode : WriteMode) (request : NodeChange)
  /-- Sets properties of the node with an identity. -/
  | setNode (mode : WriteMode) (request : EntityChange)
  /-- Lists the nodes of a selector. -/
  | findNodes (request : NodeSearch)
  /-- Finds the node with an identity. -/
  | lookUpNode (id : Identity)
  /-- Asks whether a node is there. -/
  | nodeExists (request : NodeProbe)
  /-- Creates a relationship. -/
  | connect (request : RelationCreation)
  /-- Sets properties of the relationships of a selector. -/
  | setRelations (mode : WriteMode) (request : RelationChange)
  /-- Sets properties of the relationship with an identity. -/
  | setRelation (mode : WriteMode) (request : EntityChange)
  /-- Deletes the relationships of a selector. -/
  | deleteRelations (relations : RelationSelector)
  /-- Deletes the relationship with an identity. -/
  | deleteRelation (id : Identity)
  /-- Lists the relationships of a selector. -/
  | findRelations (request : RelationSearch)
  /-- Lists the nodes where relationships to a known end start. -/
  | findSources (request : EndSearch)
  /-- Lists the nodes where relationships from a known end end. -/
  | findTargets (request : EndSearch)
  /-- Lists the nodes that have a relationship with a known one. -/
  | findNeighbours (request : EndSearch)
  /-- Finds the relationship with an identity. -/
  | lookUpRelation (id : Identity)
  /-- Asks whether a relationship is there. -/
  | relationExists (request : RelationProbe)
  /-- Runs a query in the caller's own words. -/
  | runQuery (request : RawQuery)

/-- What an operation gives. -/
inductive Answer where
  /-- A node, if there is one. -/
  | node (node : Option Node)
  /-- Nodes, unless none were asked for. -/
  | nodes (nodes : Option (List Node))
  /-- Nothing, one node or several. -/
  | changedNodes (nodes : ByCount Node)
  /-- A relationship, if there is one. -/
  | relation (relation : Option Relation)
  /-- Relationships, unless none were asked for. -/
  | relations (relations : Option (List Relation))
  /-- A number of deleted things. -/
  | count (n : Nat)
  /-- Whether something is there. -/
  | truth (b : Bool)
  /-- The rows of a raw query. -/
  | rows (rows : List Row)

namespace Operation

/-- What an operation does with the database, in a store with the given settings. -/
def plan (settings : Settings) : Operation → Plan Answer
  | createNode r => (Plan.createNode settings r).map .node
  | deleteNodes s => (Plan.deleteNodes s).map .count
  | deleteNode id => (Plan.deleteNode id).map .count
  | setNodes mode r => (Plan.setNodes mode r).map .changedNodes
  | setNode mode r => (Plan.setNode mode r).map .node
  | findNodes r => (Plan.findNodes r).map .nodes
  | lookUpNode id => (Plan.lookUpNode id).map .node
  | nodeExists r => (Plan.nodeExists r).map .truth
  | connect r => (Plan.connect r).map fun relations => .relations (some relations)
  | setRelations mode r =>
    (Plan.setRelations mode r).map fun relations => .relations (some relations)
  | setRelation mode r => (Plan.setRelation mode r).map .relation
  | deleteRelations s => (Plan.deleteRelations s).map .count
  | deleteRelation id => (Plan.deleteRelation id).map .count
  | findRelations r => (Plan.findRelations r).map .relations
  | findSources r => (Plan.findSources r).map .nodes
  | findTargets r => (Plan.findTargets r).map .nodes
  | findNeighbours r => (Plan.findNeighbours r).map .nodes
  | lookUpRelation id => (Plan.lookUpRelation id).map .relation
  | relationExists r => (Plan.relationExists r).map .truth
  | runQuery r => (Plan.runQuery r).map .rows

end Operation

end PropertyGraph
