import PropertyGraph.Cypher.Clauses
import PropertyGraph.Cypher.Properties

/-!
# Endpoints of a relationship

A relationship goes from one node to another.  Each of the two may be any node, the node with an
identity, or a node with certain labels and properties.  The two endpoints together say which
clauses come first and how the relationship is drawn: an endpoint that is any node has no variable,
and the arrow is there only when a direction is asked for and at least one endpoint has a variable.

## Main definitions

* `NodeSelector` — the nodes with certain labels and properties.
* `Endpoint` — one side of a relationship.
* `Ends` — both sides, and whether the direction matters.
* `Ends.clauses` — the clauses that tie the variables of both sides.
* `Ends.pattern` — the drawing of the relationship.
-/

namespace PropertyGraph

/-- The nodes with certain labels and properties. -/
structure NodeSelector where
  /-- The labels, all of which the node has. -/
  labels : List String := []
  /-- The properties, all of which the node has; none when they do not matter. -/
  filter : Option Properties := none
  deriving Inhabited

namespace NodeSelector

open Cypher

/-- The pattern after the variable: labels, and the filter as literals after a space. -/
def text (s : NodeSelector) : String :=
  Cypher.labels s.labels ++ s.filter.elim "" fun filter => " " ++ literals filter

/-- The selector with one label more. -/
def addLabel (s : NodeSelector) (label : String) : NodeSelector :=
  { s with labels := s.labels ++ [label] }

/-- The selector with another filter. -/
def refine (s : NodeSelector) (filter : Properties) : NodeSelector :=
  { s with filter := some filter }

/-- Whether the selector says something: a label, or a property in the filter. -/
def isSelective (s : NodeSelector) : Bool :=
  !s.labels.isEmpty || s.filter.any fun filter => !filter.isEmpty

end NodeSelector

/-- One side of a relationship. -/
inductive Endpoint where
  /-- Any node. -/
  | any
  /-- The node with an identity. -/
  | node (id : Identity)
  /-- A node with certain labels and properties. -/
  | selected (nodes : NodeSelector)
  deriving Inhabited

namespace Endpoint

/-- Any node, but with a variable. -/
def unconditional : Endpoint := .selected {}

/-- Whether the endpoint has a variable. -/
def hasVariable : Endpoint → Bool
  | .any => false
  | _ => true

theorem hasVariable_iff (e : Endpoint) : e.hasVariable = true ↔ e ≠ .any := by
  cases e <;> simp [hasVariable]

end Endpoint

namespace Cypher

/-- How a node with an identity is found. -/
inductive Addressing where
  /-- As a node to start from. -/
  | start
  /-- As a node to match, with a condition on its identity. -/
  | condition
  deriving DecidableEq, Repr, Inhabited

/-- What one endpoint adds to the clauses, for the variable of its side. -/
def contributions (addressing : Addressing) (var : String) : Endpoint → List Clause
  | .any => []
  | .node id =>
    match addressing with
    | .start => [.start ⟨id, var⟩]
    | .condition => [.node ⟨var, ""⟩, .condition ⟨id, var⟩]
  | .selected nodes => [.node ⟨var, nodes.text⟩]

/-- What the drawing of a relationship depends on. -/
structure Shape where
  /-- Whether the side where the relationship starts has a variable. -/
  sourceNamed : Bool
  /-- Whether the side where the relationship ends has a variable. -/
  targetNamed : Bool
  /-- Whether the relationship may go either way. -/
  eitherWay : Bool
  deriving DecidableEq, Repr

namespace Shape

/-- Whether the relationship is drawn with an arrow. -/
def isDirected (s : Shape) : Bool :=
  !s.eitherWay && (s.sourceNamed || s.targetNamed)

/-- One side of the drawing: the variable between parentheses, if the side has one. -/
def side (hasVariable : Bool) (var : String) : String :=
  if hasVariable then "(" ++ var ++ ")" else "()"

/-- The type of a relationship after its variable; nothing when it is absent or empty. -/
def typeLabel (relType : Option String) : String :=
  match relType with
  | none => ""
  | some t => if t.isEmpty then "" else labels [t]

/-- The drawing of a relationship with an optional type and properties that are already text. -/
def pattern (s : Shape) (relType : Option String) (properties : String) : String :=
  side s.sourceNamed Cypher.node ++
    "-[" ++ relation ++ typeLabel relType ++ afterSpace properties ++ "]-" ++
    (if s.isDirected then ">" else "") ++ side s.targetNamed otherNode

end Shape

/-- Both sides of a relationship. -/
structure Ends where
  /-- The side where the relationship starts. -/
  source : Endpoint
  /-- The side where the relationship ends. -/
  target : Endpoint
  /-- Whether the relationship may go either way. -/
  eitherWay : Bool := false
  deriving Inhabited

namespace Ends

/-- What the drawing of the relationship depends on. -/
def shape (e : Ends) : Shape :=
  ⟨e.source.hasVariable, e.target.hasVariable, e.eitherWay⟩

/-- The clauses that tie the variables of both sides, those of the source first. -/
def clauses (e : Ends) (addressing : Addressing) : Clauses :=
  .ofList (contributions addressing Cypher.node e.source ++
    contributions addressing otherNode e.target)

/-- The drawing of the relationship. -/
def pattern (e : Ends) (relType : Option String) (properties : String) : String :=
  e.shape.pattern relType properties

/-- The clauses of both sides with the drawing of the relationship. -/
def matched (e : Ends) (addressing : Addressing) (attachment : Attachment)
    (relType : Option String) (properties : String) : String :=
  (e.clauses addressing).attach (e.pattern relType properties) attachment

end Ends

end Cypher

end PropertyGraph
