import PropertyGraph.Graph.Row
import PropertyGraph.Store.Failure

/-!
# Reading a column

How a store reads nodes, relationships and counts from one column of the rows that it gets.  A
column that is absent and one that holds nothing count the same: the pattern did not match.

## Main definitions

* `Reader` — the kind of value that is expected, and what is taken from it.
* `Reader.one`, `Reader.each` — one value, and values in order; the first one of another kind is a
  failure.
* `Reader.first`, `Reader.every` — the column of the first row, and of all rows.
* `Reader.total` — a number of deleted things.
* `Reader.ofList` — a list column of a raw query.
-/

namespace PropertyGraph

/-- What is expected in a column. -/
structure Reader (α : Type) where
  /-- The kind of value. -/
  kind : Value.Kind
  /-- What is taken from a value of that kind; nothing from any other. -/
  take? : Value → Option α

namespace Reader

variable {α : Type}

/-- A node is expected. -/
def node : Reader Node := ⟨.node, Value.node?⟩

/-- A relationship is expected. -/
def relation : Reader Relation := ⟨.relation, Value.relation?⟩

/-- An integer is expected. -/
def int : Reader Int64 := ⟨.int, Value.int?⟩

/-! ### Values -/

/-- What one value of a column holds. -/
def one (e : Reader α) (column : String) (v : Value) : Except Failure α :=
  match e.take? v with
  | some x => .ok x
  | none => .error (.wrongKind column e.kind v.kind)

/-- What values of a column hold, in order. -/
def each (e : Reader α) (column : String) (values : List Value) : Except Failure (List α) :=
  values.mapM (e.one column)

/-- A value that may be a list. -/
inductive Listed (α : Type) where
  /-- What the items of the list hold. -/
  | items (items : List α)
  /-- A value that is no list, as it is. -/
  | other (value : Value)

/-- What the items of a list hold; any other value as it is. -/
def ofList (e : Reader α) (column : String) : Value → Except Failure (Listed α)
  | .list values => (e.each column values).map .items
  | v => .ok (.other v)

/-! ### Rows -/

/-- The value that a row has in a column, unless it is nothing. -/
def value? (column : String) (row : Row) : Option Value :=
  (row.get? column).filter fun v => !v.isNull

/-- The value that the first row has in a column. -/
def head? (column : String) (rows : List Row) : Option Value :=
  rows.head?.bind (value? column)

/-- The values that the rows have in a column, in order. -/
def values (column : String) (rows : List Row) : List Value :=
  rows.filterMap (value? column)

/-- What a column of the first row holds, if there is a row and it holds something. -/
def first (e : Reader α) (column : String) (rows : List Row) : Except Failure (Option α) :=
  match head? column rows with
  | none => .ok none
  | some v => (e.one column v).map some

/-- What a column holds in all rows where it holds something. -/
def every (e : Reader α) (column : String) (rows : List Row) : Except Failure (List α) :=
  e.each column (values column rows)

/-- The number in a column of the first row; zero when there is none or when it is negative. -/
def total (column : String) (rows : List Row) : Except Failure Nat :=
  (int.first column rows).map fun n => n.elim 0 fun n => n.toInt.toNat

end Reader

end PropertyGraph
