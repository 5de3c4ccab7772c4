import PropertyGraph.Graph.Value

/-!
# Rows

One row of an answer: values by the names of their columns, in order.  A row that is built by
setting columns has each name once; one that is taken as it came may repeat a name, and then the
first column of that name counts.

## Main definitions

* `Row` — columns with their values.
* `Row.set`, `Row.get?`, `Row.pop` — writing, reading and removing a column.
-/

namespace PropertyGraph

/-- One row of an answer. -/
structure Row where
  /-- The columns, in order. -/
  columns : Entries Value := []
  deriving Inhabited

namespace Row

/-- Writes a column: in its place when it is there, at the end when it is new. -/
def set (r : Row) (name : String) (value : Value) : Row :=
  ⟨r.columns.put name value⟩

/-- The value of the first column with a name. -/
def get? (r : Row) (name : String) : Option Value :=
  r.columns.get? name

/-- The value of the first column with a name, and the row without that column. -/
def pop (r : Row) (name : String) : Option Value × Row :=
  (r.columns.get? name, ⟨r.columns.remove name⟩)

/-- The names of the columns, in order. -/
def names (r : Row) : List String :=
  r.columns.keys

/-- How many columns there are. -/
def size (r : Row) : Nat :=
  r.columns.length

/-- Whether there are no columns. -/
def isEmpty (r : Row) : Bool :=
  r.columns.isEmpty

/-- A row as a JSON object with all its columns. -/
def toJson (r : Row) : Json :=
  .object (Value.membersToJson r.columns)

end Row

end PropertyGraph
