import PropertyGraph.Cypher.RelationStatement

/-!
# The slots of the clauses

Contributions to the clauses of a statement go to four slots, and a slot holds its contributions in
the order in which they came.  The clauses of two endpoints therefore have a closed form: in each
slot what the source puts there, and then what the target puts there.

## Main definitions

* `Endpoint.anchors`, `Endpoint.selectors`, `Endpoint.conditions` — what one endpoint puts into the
  slots.

## Main results

* `Clauses.ofList_eq` — the slots of a list of contributions.
* `Ends.clauses_eq` — the slots of two endpoints.
-/

namespace PropertyGraph

namespace Cypher

namespace Clause

/-- The node that a contribution starts from. -/
def start? : Clause → Option Anchor
  | .start anchor => some anchor
  | _ => none

/-- The node that a contribution matches. -/
def node? : Clause → Option NodeItem
  | .node item => some item
  | _ => none

/-- The path that a contribution matches. -/
def path? : Clause → Option String
  | .path pattern => some pattern
  | _ => none

/-- The condition that a contribution makes. -/
def condition? : Clause → Option Anchor
  | .condition anchor => some anchor
  | _ => none

end Clause

/-- Contributions are added behind those that a slot already has. -/
theorem Clauses.foldl_add (c : Clauses) (contributions : List Clause) :
    contributions.foldl Clauses.add c =
      { starts := c.starts ++ contributions.filterMap Clause.start?
        nodes := c.nodes ++ contributions.filterMap Clause.node?
        paths := c.paths ++ contributions.filterMap Clause.path?
        conditions := c.conditions ++ contributions.filterMap Clause.condition? } := by
  induction contributions generalizing c with
  | nil => simp
  | cons contribution rest ih =>
    rw [List.foldl_cons, ih]
    simp only [List.filterMap_cons]
    cases contribution <;>
      simp [Clauses.add, Clause.start?, Clause.node?, Clause.path?, Clause.condition?]

/-- **Each slot keeps its own contributions, in order.** -/
theorem Clauses.ofList_eq (contributions : List Clause) :
    Clauses.ofList contributions =
      { starts := contributions.filterMap Clause.start?
        nodes := contributions.filterMap Clause.node?
        paths := contributions.filterMap Clause.path?
        conditions := contributions.filterMap Clause.condition? } := by
  unfold Clauses.ofList
  rw [Clauses.foldl_add]
  rfl

end Cypher

/-! ### Endpoints -/

namespace Endpoint

open Cypher

/-- The nodes that an endpoint starts from. -/
def anchors (addressing : Addressing) (var : String) : Endpoint → List Anchor
  | .node id =>
    match addressing with
    | .start => [⟨id, var⟩]
    | .condition => []
  | _ => []

/-- What the nodes that an endpoint matches are selected by; nothing at all when a condition on
their identity follows. -/
def selectors (addressing : Addressing) : Endpoint → List NodeSelector
  | .any => []
  | .node _ =>
    match addressing with
    | .start => []
    | .condition => [{}]
  | .selected nodes => [nodes]

/-- The conditions that an endpoint makes. -/
def conditions (addressing : Addressing) (var : String) : Endpoint → List Anchor
  | .node id =>
    match addressing with
    | .start => []
    | .condition => [⟨id, var⟩]
  | _ => []

/-- The nodes that an endpoint matches, with their variable. -/
def items (addressing : Addressing) (var : String) (e : Endpoint) : List NodeItem :=
  (e.selectors addressing).map fun nodes => ⟨var, nodes.text⟩

theorem var_of_mem_anchors {addressing : Addressing} {var : String} {e : Endpoint} {a : Anchor}
    (h : a ∈ e.anchors addressing var) : a.var = var := by
  cases e with
  | any => simp [anchors] at h
  | selected nodes => simp [anchors] at h
  | node id =>
    cases addressing with
    | start => rw [List.mem_singleton.mp h]
    | condition => simp [anchors] at h

theorem var_of_mem_conditions {addressing : Addressing} {var : String} {e : Endpoint} {a : Anchor}
    (h : a ∈ e.conditions addressing var) : a.var = var := by
  cases e with
  | any => simp [conditions] at h
  | selected nodes => simp [conditions] at h
  | node id =>
    cases addressing with
    | start => simp [conditions] at h
    | condition => rw [List.mem_singleton.mp h]

theorem filterMap_contributions (addressing : Addressing) (var : String) (e : Endpoint) :
    (contributions addressing var e).filterMap Clause.start? = e.anchors addressing var ∧
    (contributions addressing var e).filterMap Clause.node? = e.items addressing var ∧
    (contributions addressing var e).filterMap Clause.path? = [] ∧
    (contributions addressing var e).filterMap Clause.condition?
      = e.conditions addressing var := by
  cases e with
  | any => exact ⟨rfl, rfl, rfl, rfl⟩
  | node id => cases addressing <;> exact ⟨rfl, rfl, rfl, rfl⟩
  | selected nodes => exact ⟨rfl, rfl, rfl, rfl⟩

end Endpoint

namespace Cypher

/-- **The clauses of two endpoints**: in each slot the part of the source, then the part of the
target. -/
theorem Ends.clauses_eq (e : Ends) (addressing : Addressing) :
    e.clauses addressing =
      { starts := e.source.anchors addressing node ++ e.target.anchors addressing otherNode
        nodes := e.source.items addressing node ++ e.target.items addressing otherNode
        paths := []
        conditions :=
          e.source.conditions addressing node ++ e.target.conditions addressing otherNode } := by
  obtain ⟨hs₁, hs₂, hs₃, hs₄⟩ := Endpoint.filterMap_contributions addressing node e.source
  obtain ⟨ht₁, ht₂, ht₃, ht₄⟩ := Endpoint.filterMap_contributions addressing otherNode e.target
  unfold Ends.clauses
  rw [Clauses.ofList_eq]
  simp only [List.filterMap_append, hs₁, hs₂, hs₃, hs₄, ht₁, ht₂, ht₃, ht₄, List.append_nil]

/-- The clauses of two endpoints are empty only when both are any node. -/
theorem Ends.isEmpty_clauses (e : Ends) (addressing : Addressing) :
    (e.clauses addressing).isEmpty = (!e.source.hasVariable && !e.target.hasVariable) := by
  obtain ⟨source, target, eitherWay⟩ := e
  rw [Ends.clauses_eq]
  cases source <;> cases target <;> cases addressing <;> rfl

end Cypher

end PropertyGraph
