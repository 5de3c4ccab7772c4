import PropertyGraph.Decode.Document
import PropertyGraph.Decode.Schema
import PropertyGraph.Store.Failure

/-!
# Settings of a store

## Main definitions

* `Settings` — the default label.
* `Settings.read` — the settings of a JSON document.
-/

namespace PropertyGraph

/-- The settings of a store. -/
structure Settings where
  /-- The label of a node that is created without one. -/
  defaultLabel : String := "UNKNOWN"
  deriving DecidableEq, Repr, Inhabited

namespace Settings

/-- The schema of settings. -/
def schema : Decode.Schema Settings where
  blank := {}
  fields := [.of "defaultLabel" Decode.string fun v s => { s with defaultLabel := v }]

/-- The settings of a JSON document; what it does not say is as usual. -/
def read (text : String) : Except Failure Settings :=
  (Decode.ofText schema.decode text).mapError .settings

end Settings

end PropertyGraph
