import PropertyGraph.Cypher.RelationStatement

/-!
# Commands

The seventeen statements as values of one type, so that a property of all statement texts is one
theorem about commands.  A command also says which names from outside stand in its text as they are,
and which properties it sends apart from the text.

## Main definitions

* `Text.IsWord`, `Text.IsName` — a text of letters, digits and underscores; one that is not empty.
* `Command` — one statement with its inputs.
* `Command.statement` — the statement that a command is written as.
* `Command.names` — the labels, types, property names and sort names of a command.
* `Command.sent` — the properties whose values travel as parameters.
-/

namespace PropertyGraph

namespace Text

/-- Whether a character is an ASCII letter, an ASCII digit or an underscore. -/
def isWordChar (c : Char) : Bool :=
  c.isAlphanum || c == '_'

/-- A text of letters, digits and underscores, possibly empty. -/
def IsWord (s : String) : Prop :=
  ∀ c ∈ s.toList, isWordChar c = true

/-- A text of letters, digits and underscores that is not empty. -/
def IsName (s : String) : Prop :=
  s ≠ "" ∧ IsWord s

instance : DecidablePred IsWord := fun s =>
  List.decidableBAll (fun c => isWordChar c = true) s.toList

instance : DecidablePred IsName := fun s => inferInstanceAs (Decidable (s ≠ "" ∧ IsWord s))

end Text

/-! ### Names -/

/-- The names of an optional map. -/
def keysOf (m : Option Properties) : List String :=
  m.elim [] Properties.keys

/-- The labels of a selector and the names in its filter. -/
def NodeSelector.names (s : NodeSelector) : List String :=
  s.labels ++ keysOf s.filter

/-- The labels of an endpoint and the names in its filter. -/
def Endpoint.names : Endpoint → List String
  | .any => []
  | .node _ => []
  | .selected nodes => nodes.names

@[simp] theorem Endpoint.names_unconditional : Endpoint.unconditional.names = [] := rfl

/-- The labels of both endpoints of a selector and the names in its filters.  The type is not among
them, because it may be empty where a name may not. -/
def RelationSelector.names (s : RelationSelector) : List String :=
  s.source.names ++ s.target.names ++ keysOf s.filter

/-- The property that a leaf of a sort order names. -/
def SortOrder.Leaf.name : Leaf → String
  | .bare name => name
  | .directed name _ => name

/-- The properties that a page is sorted by. -/
def Paging.names (p : Paging) : List String :=
  p.order.elim [] fun order => order.leaves.map SortOrder.Leaf.name

/-- The properties that an optional page is sorted by. -/
def pageNames (p : Option Paging) : List String :=
  p.elim [] Paging.names

/-! ### Commands -/

/-- One statement with its inputs. -/
inductive Command where
  /-- Creates a node. -/
  | createNode (labels : List String) (data : Properties)
  /-- Deletes the nodes of a selector. -/
  | deleteNodes (nodes : NodeSelector)
  /-- Deletes the node with an identity. -/
  | deleteNode (id : Identity)
  /-- Sets properties of the nodes of a selector. -/
  | setNodes (nodes : NodeSelector) (data : Properties) (mode : WriteMode)
  /-- Sets properties of the node with an identity. -/
  | setNode (id : Identity) (data : Properties) (mode : WriteMode)
  /-- Finds the nodes of a selector. -/
  | findNodes (nodes : NodeSelector) (paging : Option Paging)
  /-- Finds the node with an identity. -/
  | lookUpNode (id : Identity)
  /-- Creates a relationship between all nodes of its endpoints. -/
  | connect (source : Endpoint) (relType : Option String) (target : Endpoint) (data : Properties)
  /-- Sets properties of the relationships of a selector. -/
  | setRelations (relations : RelationSelector) (data : Properties) (mode : WriteMode)
  /-- Sets properties of the relationship with an identity. -/
  | setRelation (id : Identity) (data : Properties) (mode : WriteMode)
  /-- Deletes the relationships of a selector. -/
  | deleteRelations (relations : RelationSelector)
  /-- Deletes the relationship with an identity. -/
  | deleteRelation (id : Identity)
  /-- Finds the relationships of a selector. -/
  | findRelations (relations : RelationSelector) (paging : Option Paging)
  /-- Finds the relationship with an identity. -/
  | lookUpRelation (id : Identity)
  /-- Finds the nodes where relationships to an endpoint start. -/
  | findSources (target : Endpoint) (relType : Option String) (filter : Option Properties)
      (paging : Option Paging)
  /-- Finds the nodes where relationships from an endpoint end. -/
  | findTargets (source : Endpoint) (relType : Option String) (filter : Option Properties)
      (paging : Option Paging)
  /-- Finds the nodes that have a relationship with an endpoint. -/
  | findNeighbours (other : Endpoint) (relType : Option String) (filter : Option Properties)
      (paging : Option Paging)

namespace Command

/-- The statement that a command is written as. -/
def statement : Command → Statement
  | createNode labels data => Cypher.createNode labels data
  | deleteNodes nodes => Cypher.deleteNodes nodes
  | deleteNode id => Cypher.deleteNode id
  | setNodes nodes data mode => Cypher.setNodes nodes data mode
  | setNode id data mode => Cypher.setNode id data mode
  | findNodes nodes paging => Cypher.findNodes nodes paging
  | lookUpNode id => Cypher.lookUpNode id
  | connect source relType target data => Cypher.connect source relType target data
  | setRelations relations data mode => Cypher.setRelations relations data mode
  | setRelation id data mode => Cypher.setRelation id data mode
  | deleteRelations relations => Cypher.deleteRelations relations
  | deleteRelation id => Cypher.deleteRelation id
  | findRelations relations paging => Cypher.findRelations relations paging
  | lookUpRelation id => Cypher.lookUpRelation id
  | findSources target relType filter paging => Cypher.findSources target relType filter paging
  | findTargets source relType filter paging => Cypher.findTargets source relType filter paging
  | findNeighbours other relType filter paging => Cypher.findNeighbours other relType filter paging

/-- The names from outside that stand in the text as they are: labels, types, the names of
properties in data and filters, and the properties to sort by. -/
def names : Command → List String
  | createNode labels data => labels ++ data.keys
  | deleteNodes nodes => nodes.names
  | deleteNode _ => []
  | setNodes nodes data _ => nodes.names ++ data.keys
  | setNode _ data _ => data.keys
  | findNodes nodes paging => nodes.names ++ pageNames paging
  | lookUpNode _ => []
  | connect source relType target data =>
    source.names ++ relType.toList ++ target.names ++ data.keys
  | setRelations relations data _ => relations.relType.toList ++ relations.names ++ data.keys
  | setRelation _ data _ => data.keys
  | deleteRelations relations => relations.relType.toList ++ relations.names
  | deleteRelation _ => []
  | findRelations relations paging =>
    relations.relType.toList ++ relations.names ++ pageNames paging
  | lookUpRelation _ => []
  | findSources target relType filter paging =>
    target.names ++ relType.toList ++ keysOf filter ++ pageNames paging
  | findTargets source relType filter paging =>
    source.names ++ relType.toList ++ keysOf filter ++ pageNames paging
  | findNeighbours other relType filter paging =>
    other.names ++ relType.toList ++ keysOf filter ++ pageNames paging

/-- The properties whose values travel as parameters: what is created or set, except on the
relationships of a selector, and the filter of a deletion of nodes. -/
def sent : Command → Option Properties
  | createNode _ data => some data
  | deleteNodes nodes => nodes.filter
  | setNodes _ data _ => some data
  | setNode _ data _ => some data
  | connect _ _ _ data => some data
  | setRelation _ data _ => some data
  | _ => none

/-- The names of the properties that travel as parameters. -/
def sentKeys (c : Command) : List String :=
  keysOf c.sent

/-- What travels as a parameter has its name in the text. -/
theorem mem_names_of_mem_sentKeys {c : Command} {k : String} (h : k ∈ c.sentKeys) :
    k ∈ c.names := by
  cases c with
  | createNode labels data => exact List.mem_append_right _ h
  | deleteNodes nodes => exact List.mem_append_right _ h
  | setNodes nodes data mode => exact List.mem_append_right _ h
  | setNode id data mode => exact h
  | connect source relType target data => exact List.mem_append_right _ h
  | setRelation id data mode => exact h
  | _ => simp [sentKeys, sent, keysOf] at h

/-- **The parameters are what is sent**, and an empty map of them is left out. -/
theorem params_statement (c : Command) :
    c.statement.params = c.sent.bind Properties.nonempty? := by
  cases c <;> rfl

end Command

end PropertyGraph
