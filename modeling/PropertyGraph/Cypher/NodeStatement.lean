import PropertyGraph.Cypher.Statement
import PropertyGraph.Cypher.Ends
import PropertyGraph.Cypher.Paging

/-!
# Statements on nodes

One statement for each thing that is done to nodes: creating one, deleting, changing and finding
them, each by a selector or by identity.  What is created or set is sent as parameters, and so is
the filter of a deletion; the filter of a change or a search is written as literals.

## Main definitions

* `WriteMode` — whether properties that are not given stay.
* `createNode`, `deleteNodes`, `deleteNode`, `setNodes`, `setNode`, `findNodes`, `lookUpNode` — the
  statements.
-/

namespace PropertyGraph

/-- Whether properties that are not given stay. -/
inductive WriteMode where
  /-- They stay. -/
  | merge
  /-- They are removed. -/
  | overwrite
  deriving DecidableEq, Repr

/-- The operator between a variable and what it is set to. -/
def WriteMode.operator : WriteMode → String
  | .merge => "+="
  | .overwrite => "="

namespace Cypher

/-- The name of the column that holds a number of deleted things. -/
def tally : String := "count"

/-- The variable of the node between parentheses, with labels and with properties as text. -/
def nodeWith (names : List String) (properties : String) : String :=
  "(" ++ node ++ labels names ++ afterSpace properties ++ ")"

/-- A clause that sets properties, to something that is already text. -/
def setting (var : String) (mode : WriteMode) (properties : String) : String :=
  " SET " ++ var ++ " " ++ mode.operator ++ " " ++ properties

/-- A clause that gives a variable back. -/
def returning (var : String) : String :=
  " RETURN " ++ var

/-- A clause that gives a variable back, each value once. -/
def returningDistinct (var : String) : String :=
  " RETURN DISTINCT " ++ var

/-- A clause that deletes what a variable stands for and gives back how many there were. -/
def deleting (var : String) : String :=
  " DELETE " ++ var ++ " RETURN COUNT(" ++ var ++ ") as " ++ tally

/-- Creates a node with labels and properties. -/
def createNode (names : List String) (data : Properties) : Statement :=
  .binding ("CREATE " ++ nodeWith names (placeholders data) ++ returning node) data

/-- Deletes the nodes of a selector and counts them.  The values of the filter are parameters. -/
def deleteNodes (s : NodeSelector) : Statement :=
  ⟨"MATCH " ++ nodeWith s.labels (filterPlaceholders s.filter) ++ deleting node,
    s.filter.bind (·.nonempty?)⟩

/-- Deletes the node with an identity and counts it. -/
def deleteNode (id : Identity) : Statement :=
  ⟨Anchor.startNode ⟨id, node⟩ ++ deleting node, none⟩

/-- Sets properties of the nodes of a selector. -/
def setNodes (s : NodeSelector) (data : Properties) (mode : WriteMode) : Statement :=
  .binding ("MATCH " ++ nodeWith s.labels (filterLiterals s.filter) ++
    setting node mode (payload data) ++ returning node) data

/-- Sets properties of the node with an identity. -/
def setNode (id : Identity) (data : Properties) (mode : WriteMode) : Statement :=
  .binding (Anchor.startNode ⟨id, node⟩ ++ setting node mode (payload data) ++ returning node) data

/-- Finds the nodes of a selector. -/
def findNodes (s : NodeSelector) (paging : Option Paging) : Statement :=
  ⟨"MATCH " ++ nodeWith s.labels (filterLiterals s.filter) ++ returning node ++
    Paging.suffix paging node, none⟩

/-- Finds the node with an identity. -/
def lookUpNode (id : Identity) : Statement :=
  ⟨"MATCH (" ++ node ++ ") " ++ Anchor.whereClause ⟨id, node⟩ ++ returning node, none⟩

end Cypher

end PropertyGraph
