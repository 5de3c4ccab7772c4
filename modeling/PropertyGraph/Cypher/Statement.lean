import PropertyGraph.Graph.Properties

/-!
# Statements

A query text with the parameters that its placeholders name.

## Main definitions

* `Statement` — a text and its parameters.
-/

namespace PropertyGraph

/-- A query text with its parameters. -/
structure Statement where
  /-- The text of the query. -/
  text : String
  /-- The values of the placeholders; absent when the text has none. -/
  params : Option Properties := none
  deriving Inhabited

namespace Statement

/-- The statement with other parameters, or with none. -/
def rebind (s : Statement) (params : Option Properties) : Statement :=
  { s with params := params }

/-- A text whose placeholders are the names of a map; a map without properties is left out. -/
def binding (text : String) (m : Properties) : Statement :=
  ⟨text, m.nonempty?⟩

end Statement

end PropertyGraph
