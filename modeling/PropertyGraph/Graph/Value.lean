import PropertyGraph.Graph.Entity

/-!
# Values

What the database returns in a column: a scalar, a list, a map, a node or a relationship.  The names
of a map are in rising order of their code points, which is also the order of their UTF-8 bytes.

## Main definitions

* `Value` — a value in a column.
* `Value.kind` — its kind, as messages name it.
* `Value.toJson`, `Value.ofJson` — a value as JSON, and a JSON value as a value.
-/

namespace PropertyGraph

/-- A value in a column. -/
inductive Value where
  /-- Nothing. -/
  | null
  /-- A truth value. -/
  | bool (b : Bool)
  /-- An integer. -/
  | int (n : Int64)
  /-- A floating-point number. -/
  | float (d : Double)
  /-- A string. -/
  | string (s : String)
  /-- A list. -/
  | list (items : List Value)
  /-- A map. -/
  | map (members : List (String × Value))
  /-- A node. -/
  | node (n : Node)
  /-- A relationship. -/
  | relation (r : Relation)

namespace Value

instance : Inhabited Value := ⟨.null⟩

/-- The kind of a value. -/
inductive Kind where
  /-- Nothing. -/
  | null
  /-- A truth value. -/
  | bool
  /-- An integer. -/
  | int
  /-- A floating-point number. -/
  | float
  /-- A string. -/
  | string
  /-- A list. -/
  | list
  /-- A map. -/
  | map
  /-- A node. -/
  | node
  /-- A relationship. -/
  | relation
  deriving DecidableEq, Repr

/-- The name of a kind in messages. -/
def Kind.name : Kind → String
  | .null => "null"
  | .bool => "bool"
  | .int => "int"
  | .float => "float"
  | .string => "string"
  | .list => "list"
  | .map => "map"
  | .node => "node"
  | .relation => "relationship"

/-- The kind of a value. -/
def kind : Value → Kind
  | .null => .null
  | .bool _ => .bool
  | .int _ => .int
  | .float _ => .float
  | .string _ => .string
  | .list _ => .list
  | .map _ => .map
  | .node _ => .node
  | .relation _ => .relation

/-- Whether the value is nothing. -/
def isNull : Value → Bool
  | .null => true
  | _ => false

/-- The integer, when the value is one. -/
def int? : Value → Option Int64
  | .int n => some n
  | _ => none

/-- The node, when the value is one. -/
def node? : Value → Option Node
  | .node n => some n
  | _ => none

/-- The relationship, when the value is one. -/
def relation? : Value → Option Relation
  | .relation r => some r
  | _ => none

/-! ### Maps -/

/-- Writes a value to a name of a map whose names are in rising order. -/
def insertSorted {α : Type} (name : String) (value : α) : List (String × α) → List (String × α)
  | [] => [(name, value)]
  | (k, v) :: rest =>
    if name < k then (name, value) :: (k, v) :: rest
    else if name = k then (k, value) :: rest
    else (k, v) :: insertSorted name value rest

/-- The entries written one after another to a map whose names are in rising order. -/
def sortedEntries {α : Type} (entries : List (String × α)) : List (String × α) :=
  entries.foldl (fun written (k, v) => insertSorted k v written) []

/-- A map from its entries; the last value of a name counts. -/
def ofEntries (entries : List (String × Value)) : Value :=
  .map (sortedEntries entries)

/-! ### JSON -/

mutual

/-- A value as JSON.  A node and a relationship are objects that say what they are. -/
def toJson : Value → Json
  | .null => .null
  | .bool b => .bool b
  | .int n => .number (.int n.toInt)
  | .float d => .number (.double d)
  | .string s => .string s
  | .list items => .array (itemsToJson items)
  | .map members => .object (membersToJson members)
  | .node n => n.described
  | .relation r => r.described

/-- Each item as JSON. -/
def itemsToJson : List Value → List Json
  | [] => []
  | v :: rest => toJson v :: itemsToJson rest

/-- Each member as JSON. -/
def membersToJson : List (String × Value) → List (String × Json)
  | [] => []
  | (k, v) :: rest => (k, toJson v) :: membersToJson rest

end

/-- A JSON number as a value: an integer when it fits 64 bits with sign, and a floating-point number
otherwise. -/
def ofNumber : Number → Value
  | .int n =>
    match (Json.number (.int n)).toInt64? with
    | some k => .int k
    | none => .float (.ofInt n)
  | .double d => .float d

mutual

/-- A JSON value as a value.  The names of an object come into rising order. -/
def ofJson : Json → Value
  | .null => .null
  | .bool b => .bool b
  | .number n => ofNumber n
  | .string s => .string s
  | .array items => .list (ofItems items)
  | .object members => ofEntries (ofMembers members)

/-- Each item as a value. -/
def ofItems : List Json → List Value
  | [] => []
  | v :: rest => ofJson v :: ofItems rest

/-- Each member as a value. -/
def ofMembers : List (String × Json) → List (String × Value)
  | [] => []
  | (k, v) :: rest => (k, ofJson v) :: ofMembers rest

end

end Value

end PropertyGraph
