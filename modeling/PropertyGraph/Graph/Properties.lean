import PropertyGraph.Json.Basic

/-!
# Properties

The properties of a node or a relationship, a filter on them, and the parameters of a statement:
distinct names with JSON values, in the order in which the names first came.

## Main definitions

* `Properties` — entries whose names are distinct.
* `Properties.insert` — writing one property.
* `Properties.ofList` — the properties written one after another.
-/

namespace PropertyGraph

/-- Distinct names with JSON values, in order. -/
structure Properties where
  /-- The properties in order. -/
  entries : Entries Json
  /-- Each name occurs once. -/
  nodup : entries.keys.Nodup

namespace Properties

/-- No properties. -/
def empty : Properties := ⟨[], by simp⟩

instance : Inhabited Properties := ⟨empty⟩

instance : EmptyCollection Properties := ⟨empty⟩

/-- Writes one property: in its place when the name is there, at the end when it is new. -/
def insert (name : String) (value : Json) (m : Properties) : Properties :=
  ⟨m.entries.put name value, Entries.nodup_keys_put m.nodup⟩

/-- The properties of a list written one after another: each name keeps its first place and takes
its last value. -/
def ofList (entries : List (String × Json)) : Properties :=
  ⟨Entries.ofList entries, Entries.nodup_keys_ofList entries⟩

/-- The names, in order. -/
def keys (m : Properties) : List String :=
  m.entries.keys

/-- Whether there is no property. -/
def isEmpty (m : Properties) : Bool :=
  m.entries.isEmpty

/-- The object that holds the properties. -/
def toJson (m : Properties) : Json :=
  .object m.entries

/-- The map itself, unless it is empty. -/
def nonempty? (m : Properties) : Option Properties :=
  if m.isEmpty then none else some m

@[ext] theorem ext {a b : Properties} (h : a.entries = b.entries) : a = b := by
  cases a; cases b; cases h; rfl

@[simp] theorem entries_insert (name : String) (value : Json) (m : Properties) :
    (m.insert name value).entries = m.entries.put name value := rfl

@[simp] theorem isEmpty_iff (m : Properties) : m.isEmpty = true ↔ m = empty := by
  refine ⟨fun h => ext (List.isEmpty_iff.1 h), fun h => h ▸ rfl⟩

end Properties

end PropertyGraph
