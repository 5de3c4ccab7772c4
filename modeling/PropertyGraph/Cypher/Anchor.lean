import PropertyGraph.Graph.Identity
import PropertyGraph.Cypher.Joining

/-!
# Variables and anchors

A statement calls a node `n`, a second node `m` and a relationship `r`.  An anchor ties a variable
to one identity, either as a starting point or as a condition.

## Main definitions

* `node`, `otherNode`, `relation` — the variables.
* `Anchor` — a variable with the identity that it stands for.
* `Anchor.node`, `Anchor.relation`, `Anchor.condition` — the three ways to write one.
-/

namespace PropertyGraph.Cypher

/-- The variable of the node of a statement, or of the node where a relationship starts. -/
def node : String := "n"

/-- The variable of the node where a relationship ends. -/
def otherNode : String := "m"

/-- The variable of the relationship of a statement. -/
def relation : String := "r"

/-- A variable with the identity that it stands for. -/
structure Anchor where
  /-- The identity. -/
  id : Identity
  /-- The variable. -/
  var : String
  deriving DecidableEq, Repr

namespace Anchor

/-- A node as a starting point: `n=node(7)`. -/
def node (a : Anchor) : String :=
  a.var ++ "=node(" ++ a.id.text ++ ")"

/-- A relationship as a starting point: `r=rel(7)`. -/
def relation (a : Anchor) : String :=
  a.var ++ "=rel(" ++ a.id.text ++ ")"

/-- A condition on the identity: `id(n) = 7`. -/
def condition (a : Anchor) : String :=
  "id(" ++ a.var ++ ") = " ++ a.id.text

/-- A clause that starts from a node: `START n=node(7)`. -/
def startNode (a : Anchor) : String :=
  "START " ++ a.node

/-- A clause that starts from a relationship: `START r=rel(7)`. -/
def startRelation (a : Anchor) : String :=
  "START " ++ a.relation

/-- A clause that asks for an identity: `WHERE id(n) = 7`. -/
def whereClause (a : Anchor) : String :=
  "WHERE " ++ a.condition

end Anchor

end PropertyGraph.Cypher
