import PropertyGraph.Cypher.Anchor

/-!
# Clauses

The clauses in front of the body of a statement: what it starts from, what it matches and which
conditions hold.  Each kind has a slot of its own, so that contributions from two sides cannot
interleave: the text has the starting points first, then the nodes and paths to match, then the
conditions.

## Main definitions

* `Clause` — one contribution.
* `Clauses` — the contributions, by slot.
* `Clauses.text` — the clauses as text.
* `Clauses.attach` — the clauses with the pattern of a relationship.
-/

namespace PropertyGraph.Cypher

/-- A node to match: a variable and what the pattern says after it. -/
structure NodeItem where
  /-- The variable; an empty one stands for the variable of the node of a statement. -/
  var : String
  /-- The labels and properties after the variable. -/
  rest : String
  deriving DecidableEq, Repr

/-- The text of a node to match, between parentheses. -/
def NodeItem.text (item : NodeItem) : String :=
  "(" ++ (if item.var.isEmpty then node else item.var) ++ item.rest ++ ")"

/-- A clause that matches nodes, given what follows each variable; the i-th node has the i-th
variable, and the variable of the node of a statement when there are not enough. -/
def matchNodes (rests vars : List String) : String :=
  listed "MATCH" ", "
    (rests.mapIdx fun i rest => NodeItem.text ⟨vars.getD i "", rest⟩)

/-- One contribution to the clauses of a statement. -/
inductive Clause where
  /-- A node to start from. -/
  | start (anchor : Anchor)
  /-- A node to match. -/
  | node (item : NodeItem)
  /-- A path to match, as text. -/
  | path (pattern : String)
  /-- A condition on an identity. -/
  | condition (anchor : Anchor)
  deriving DecidableEq, Repr

/-- The clauses of a statement, by slot; each slot keeps the order of its contributions. -/
structure Clauses where
  /-- The nodes to start from. -/
  starts : List Anchor := []
  /-- The nodes to match. -/
  nodes : List NodeItem := []
  /-- The paths to match. -/
  paths : List String := []
  /-- The conditions. -/
  conditions : List Anchor := []
  deriving DecidableEq, Repr, Inhabited

/-- How the pattern of a relationship joins the clauses in front of it. -/
inductive Attachment where
  /-- The nodes match also when the relationship is not there. -/
  | optional
  /-- The relationship has to be there.  Nodes without labels and properties are then left to its
  pattern, which binds their variables. -/
  | folded
  deriving DecidableEq, Repr, Inhabited

namespace Clauses

/-- Adds a contribution to the end of its slot. -/
def add (c : Clauses) : Clause → Clauses
  | .start anchor => { c with starts := c.starts ++ [anchor] }
  | .node item => { c with nodes := c.nodes ++ [item] }
  | .path pattern => { c with paths := c.paths ++ [pattern] }
  | .condition anchor => { c with conditions := c.conditions ++ [anchor] }

/-- The clauses of contributions, one after another. -/
def ofList (contributions : List Clause) : Clauses :=
  contributions.foldl add {}

/-- Whether no slot has a contribution. -/
def isEmpty (c : Clauses) : Bool :=
  c.starts.isEmpty && c.nodes.isEmpty && c.paths.isEmpty && c.conditions.isEmpty

/-- The clauses as text: starting points, nodes and paths to match, conditions. -/
def text (c : Clauses) : String :=
  words [
    listed "START" ", " (c.starts.map Anchor.node),
    listed "MATCH" ", " (c.nodes.map NodeItem.text ++ c.paths),
    listed "WHERE" " AND " (c.conditions.map Anchor.condition)]

/-- The clauses without the nodes to match that have neither labels nor properties. -/
def withoutBareNodes (c : Clauses) : Clauses :=
  { c with nodes := c.nodes.filter fun item => !item.rest.isEmpty }

/-- The clauses with the pattern of a relationship.  Without any clause the relationship has to be
there, whatever the attachment says. -/
def attach (c : Clauses) (pattern : String) (attachment : Attachment) : String :=
  if c.isEmpty then "MATCH " ++ pattern
  else
    match attachment with
    | .optional => c.text ++ " OPTIONAL MATCH " ++ pattern
    | .folded => (c.withoutBareNodes.add (.path pattern)).text

end Clauses

end PropertyGraph.Cypher
