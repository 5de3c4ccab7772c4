import PropertyGraph.Proofs.Command

/-!
# Skeletons

What is left of an input when every string inside its property values is emptied.  Names, numbers,
truth values and the nesting of arrays and objects stay.  Two inputs differ in nothing but the
contents of such strings exactly when they have one skeleton.

## Main definitions

* `Json.skeleton` — a value with every string in it emptied, at any depth.
* `Properties.skeleton`, `NodeSelector.skeleton`, `Endpoint.skeleton`, `RelationSelector.skeleton` —
  the same for what holds values.
* `Command.skeleton` — the same for a whole command.

## Main results

* `Command.names_skeleton` — emptying strings touches no name.
-/

namespace PropertyGraph

/-! ### Values -/

namespace Json

mutual

/-- The value with every string in it emptied.  The names of members stay. -/
def skeleton : Json → Json
  | .null => .null
  | .bool b => .bool b
  | .number n => .number n
  | .string _ => .string ""
  | .array items => .array (skeletonItems items)
  | .object members => .object (skeletonMembers members)

/-- Each item with its strings emptied. -/
def skeletonItems : List Json → List Json
  | [] => []
  | v :: rest => skeleton v :: skeletonItems rest

/-- The value of each member with its strings emptied. -/
def skeletonMembers : List (String × Json) → List (String × Json)
  | [] => []
  | (k, v) :: rest => (k, skeleton v) :: skeletonMembers rest

end

end Json

/-! ### Properties and selectors -/

/-- The entries with the strings in their values emptied. -/
def Entries.skeleton (entries : Entries Json) : Entries Json :=
  entries.map fun (k, v) => (k, v.skeleton)

@[simp] theorem Entries.keys_skeleton (entries : Entries Json) :
    entries.skeleton.keys = entries.keys := by
  simp [Entries.skeleton, Entries.keys, Function.comp_def]

/-- The properties with the strings in their values emptied. -/
def Properties.skeleton (m : Properties) : Properties :=
  ⟨m.entries.skeleton, by rw [Entries.keys_skeleton]; exact m.nodup⟩

@[simp] theorem Properties.keys_skeleton (m : Properties) : m.skeleton.keys = m.keys :=
  Entries.keys_skeleton m.entries

@[simp] theorem Properties.isEmpty_skeleton (m : Properties) :
    m.skeleton.isEmpty = m.isEmpty := by
  simp [Properties.isEmpty, Properties.skeleton, Entries.skeleton]

/-- An optional filter with the strings in its values emptied. -/
def filterSkeleton (filter : Option Properties) : Option Properties :=
  filter.map Properties.skeleton

@[simp] theorem keysOf_skeleton (filter : Option Properties) :
    keysOf (filterSkeleton filter) = keysOf filter := by
  cases filter <;> simp [keysOf, filterSkeleton]

/-- A selector with the strings in its filter emptied. -/
def NodeSelector.skeleton (s : NodeSelector) : NodeSelector :=
  { s with filter := filterSkeleton s.filter }

@[simp] theorem NodeSelector.names_skeleton (s : NodeSelector) : s.skeleton.names = s.names := by
  simp [NodeSelector.names, NodeSelector.skeleton]

/-- An endpoint with the strings in its filter emptied. -/
def Endpoint.skeleton : Endpoint → Endpoint
  | .any => .any
  | .node id => .node id
  | .selected nodes => .selected nodes.skeleton

@[simp] theorem Endpoint.names_skeleton (e : Endpoint) : e.skeleton.names = e.names := by
  cases e <;> simp [Endpoint.names, Endpoint.skeleton]

@[simp] theorem Endpoint.hasVariable_skeleton (e : Endpoint) :
    e.skeleton.hasVariable = e.hasVariable := by
  cases e <;> rfl

/-- A selector with the strings in all its filters emptied. -/
def RelationSelector.skeleton (s : RelationSelector) : RelationSelector :=
  { s with
    source := s.source.skeleton
    target := s.target.skeleton
    filter := filterSkeleton s.filter }

@[simp] theorem RelationSelector.relType_skeleton (s : RelationSelector) :
    s.skeleton.relType = s.relType := rfl

@[simp] theorem RelationSelector.names_skeleton (s : RelationSelector) :
    s.skeleton.names = s.names := by
  simp [RelationSelector.names, RelationSelector.skeleton]

/-! ### Commands -/

namespace Command

/-- A command with every string in its property values emptied. -/
def skeleton : Command → Command
  | createNode labels data => createNode labels data.skeleton
  | deleteNodes nodes => deleteNodes nodes.skeleton
  | deleteNode id => deleteNode id
  | setNodes nodes data mode => setNodes nodes.skeleton data.skeleton mode
  | setNode id data mode => setNode id data.skeleton mode
  | findNodes nodes paging => findNodes nodes.skeleton paging
  | lookUpNode id => lookUpNode id
  | connect source relType target data =>
    connect source.skeleton relType target.skeleton data.skeleton
  | setRelations relations data mode => setRelations relations.skeleton data.skeleton mode
  | setRelation id data mode => setRelation id data.skeleton mode
  | deleteRelations relations => deleteRelations relations.skeleton
  | deleteRelation id => deleteRelation id
  | findRelations relations paging => findRelations relations.skeleton paging
  | lookUpRelation id => lookUpRelation id
  | findSources target relType filter paging =>
    findSources target.skeleton relType (filterSkeleton filter) paging
  | findTargets source relType filter paging =>
    findTargets source.skeleton relType (filterSkeleton filter) paging
  | findNeighbours other relType filter paging =>
    findNeighbours other.skeleton relType (filterSkeleton filter) paging

/-- Emptying strings touches no name. -/
@[simp] theorem names_skeleton (c : Command) : c.skeleton.names = c.names := by
  cases c <;> simp [names, skeleton]

end Command

end PropertyGraph
