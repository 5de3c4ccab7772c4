import PropertyGraph.Decode.Fault
import PropertyGraph.Graph.Value

/-!
# Failures of a store

## Main definitions

* `Check` — the two checks for existence, which need a criterion.
* `Failure` — why an operation has no answer.
* `Failure.message` — the wording.
-/

namespace PropertyGraph

/-- A check for existence. -/
inductive Check where
  /-- Whether a node is there. -/
  | node
  /-- Whether a relationship is there. -/
  | relation
  deriving DecidableEq, Repr

/-- What a check says when it has nothing to go by. -/
def Check.complaint : Check → String
  | .node => "No ID or query or labels given, can not check for existence"
  | .relation => "No ID or query or type given, can not check for existence"

/-- The name under which checks complain. -/
def Check.title : String := "neo4j-exists-error"

/-- Why an operation has no answer. -/
inductive Failure where
  /-- The session failed; its text is passed on. -/
  | session (text : String)
  /-- A check for existence has nothing to go by. -/
  | noCriterion (check : Check)
  /-- A text or a pair of words is no identity. -/
  | identity (error : Identity.Error)
  /-- A column holds a value of another kind than the operation reads. -/
  | wrongKind (column : String) (expected found : Value.Kind)
  /-- The settings cannot be read. -/
  | settings (fault : Decode.Fault)
  deriving DecidableEq, Repr

/-- The wording of a failure. -/
def Failure.message : Failure → String
  | .session text => text
  | .noCriterion check => Check.title ++ ": " ++ check.complaint
  | .identity error => "invalid identity: " ++ error.message
  | .wrongKind column expected found =>
    "column `" ++ column ++ "` holds " ++ found.name ++ ", expected " ++ expected.name
  | .settings fault => "invalid configuration: " ++ fault.message

end PropertyGraph
