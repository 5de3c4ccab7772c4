import PropertyGraph.Graph.Properties
import PropertyGraph.Json.Writer
import PropertyGraph.Cypher.Joining

/-!
# Labels and properties

Labels stand after a variable, each after a colon.  Properties are written in one of two ways: with
a placeholder for each value, which is then sent as a parameter, or with the values themselves as
literals.  Names are written as they are; a caller who takes names from outside has to check them
first.

## Main definitions

* `labels` — the labels after a variable.
* `placeholders` — properties whose values are sent as parameters; nothing when there are none.
* `literals` — properties with their values; an empty pair of braces when there are none.
* `payload` — what a statement sets: placeholders, or an empty pair of braces.
-/

namespace PropertyGraph.Cypher

/-- The labels after a variable, each after a colon. -/
def labels (names : List String) : String :=
  "".intercalate (names.map (":" ++ ·))

/-- Items between braces, with commas between them. -/
def braced (items : List String) : String :=
  "\x7b " ++ ", ".intercalate items ++ " \x7d"

/-- An empty pair of braces. -/
def noProperties : String := "\x7b\x7d"

/-- One property whose value is a parameter of the same name. -/
def placeholder (name : String) : String :=
  name ++ " : \x7b" ++ name ++ "\x7d"

/-- One property with its value. -/
def literal (name : String) (value : Json) : String :=
  name ++ ": " ++ value.text

/-- Properties whose values are sent as parameters; nothing when there are none. -/
def placeholders (m : Properties) : String :=
  if m.isEmpty then "" else braced (m.keys.map placeholder)

/-- Properties with their values; an empty pair of braces when there are none. -/
def literals (m : Properties) : String :=
  if m.isEmpty then noProperties else braced (m.entries.map fun (k, v) => literal k v)

/-- What a statement sets, with the values as parameters; an empty pair of braces when there is
nothing to set. -/
def payload (m : Properties) : String :=
  if m.isEmpty then noProperties else braced (m.keys.map placeholder)

/-- The literals of a filter; nothing when there is no filter. -/
def filterLiterals (filter : Option Properties) : String :=
  filter.elim "" literals

/-- The placeholders of a filter; nothing when there is no filter. -/
def filterPlaceholders (filter : Option Properties) : String :=
  filter.elim "" placeholders

end PropertyGraph.Cypher
