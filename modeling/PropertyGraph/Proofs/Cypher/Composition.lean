import PropertyGraph.Proofs.Cypher.Contributions

/-!
# Composing endpoints with a relationship

The clauses in front of the drawing of a relationship hold what both endpoints ask for, those of the
source first.  When the relationship is folded into them, the nodes to match that say nothing are
left out; the drawing names their variables itself, so that each variable stays bound and nothing
that was asked for is lost.

## Main definitions

* `Endpoint.startTexts`, `Endpoint.matchTexts`, `Endpoint.conditionTexts` — what one endpoint asks
  for, by clause.
* `Endpoint.foldedTexts` — the nodes to match that are left when the relationship is folded.
* `Cypher.Ends.startTexts` and the others — the same for both endpoints.
* `Endpoint.drawn`, `Cypher.drawnRelation` — the parts of the drawing.
* `Cypher.Binds` — an item of a clause binds a variable.

## Main results

* `Cypher.Ends.pattern_eq` — how a relationship is drawn.
* `Cypher.Ends.attach_optional`, `Cypher.Ends.attach_folded` — the clauses with the drawing.
* `Cypher.Ends.matched_keeps_endpoints` — **every constraint is kept and every variable bound**.
-/

namespace PropertyGraph

open Cypher

/-! ### What one endpoint asks for -/

/-- An item of a clause binds a variable: as a starting point, as a node to match or at the front of
a path, or at the end of a path. -/
inductive Cypher.Binds (var : String) : String → Prop
  /-- A starting point. -/
  | start (rest : String) : Binds var (var ++ "=node(" ++ rest)
  /-- A node to match, or the node where a path begins. -/
  | front (rest : String) : Binds var ("(" ++ var ++ rest)
  /-- The node where a path ends. -/
  | back (lead : String) : Binds var (lead ++ "(" ++ var ++ ")")

namespace Endpoint

/-- The starting points of an endpoint: `v=node(7)`. -/
def startTexts (addressing : Addressing) (var : String) : Endpoint → List String
  | .node id =>
    match addressing with
    | .start => [var ++ "=node(" ++ id.text ++ ")"]
    | .condition => []
  | _ => []

/-- The nodes that an endpoint matches: `(v)`, or `(v` with labels and properties and `)`. -/
def matchTexts (addressing : Addressing) (var : String) : Endpoint → List String
  | .any => []
  | .node _ =>
    match addressing with
    | .start => []
    | .condition => ["(" ++ var ++ ")"]
  | .selected nodes => ["(" ++ var ++ nodes.text ++ ")"]

/-- The conditions of an endpoint: `id(v) = 7`. -/
def conditionTexts (addressing : Addressing) (var : String) : Endpoint → List String
  | .node id =>
    match addressing with
    | .start => []
    | .condition => ["id(" ++ var ++ ") = " ++ id.text]
  | _ => []

/-- The nodes that an endpoint matches, without those that say nothing but their variable. -/
def foldedTexts (var : String) : Endpoint → List String
  | .selected nodes =>
    if nodes.labels = [] ∧ nodes.filter.isNone then [] else ["(" ++ var ++ nodes.text ++ ")"]
  | _ => []

/-- One side of the drawing: the variable between parentheses, unless the endpoint is any node. -/
def drawn (var : String) : Endpoint → String
  | .any => "()"
  | _ => "(" ++ var ++ ")"

variable {addressing : Addressing} {var : String}

theorem map_node_anchors (e : Endpoint) :
    (e.anchors addressing var).map Anchor.node = e.startTexts addressing var := by
  cases e with
  | node id => cases addressing <;> rfl
  | _ => rfl

theorem map_condition_conditions (e : Endpoint) :
    (e.conditions addressing var).map Anchor.condition = e.conditionTexts addressing var := by
  cases e with
  | node id => cases addressing <;> rfl
  | _ => rfl

theorem text_nodeItem (hvar : var ≠ "") (rest : String) :
    NodeItem.text ⟨var, rest⟩ = "(" ++ var ++ rest ++ ")" := by
  simp [NodeItem.text, isEmpty_eq_false hvar]

theorem map_text_matched (hvar : var ≠ "") (e : Endpoint) :
    (e.items addressing var).map NodeItem.text = e.matchTexts addressing var := by
  cases e with
  | any => rfl
  | node id =>
    cases addressing with
    | start => rfl
    | condition =>
      show [NodeItem.text ⟨var, ""⟩] = ["(" ++ var ++ ")"]
      rw [text_nodeItem hvar, String.append_empty]
  | selected nodes =>
    show [NodeItem.text ⟨var, nodes.text⟩] = _
    rw [text_nodeItem hvar]
    rfl

/-- Only a selector without labels and filter says nothing. -/
theorem text_eq_empty_iff (nodes : NodeSelector) :
    nodes.text = "" ↔ nodes.labels = [] ∧ nodes.filter.isNone := by
  obtain ⟨names, filter⟩ := nodes
  cases names with
  | cons name names => simp [NodeSelector.text, labels]
  | nil => cases filter <;> simp [NodeSelector.text, labels]

/-- **Folding drops the nodes that say nothing**, and no others. -/
theorem map_text_folded (hvar : var ≠ "") (e : Endpoint) :
    ((e.items addressing var).filter fun item => !item.rest.isEmpty).map NodeItem.text
      = e.foldedTexts var := by
  cases e with
  | any => rfl
  | node id => cases addressing <;> rfl
  | selected nodes =>
    show ([NodeItem.mk var nodes.text].filter fun item => !item.rest.isEmpty).map NodeItem.text
      = if nodes.labels = [] ∧ nodes.filter.isNone then [] else ["(" ++ var ++ nodes.text ++ ")"]
    rw [← text_nodeItem hvar]
    simp only [← text_eq_empty_iff]
    by_cases hnodes : nodes.text = ""
    · rw [if_pos hnodes, hnodes]
      rfl
    · rw [if_neg hnodes, List.filter_cons_of_pos (by simp [isEmpty_eq_false hnodes])]
      rfl

theorem drawn_of_ne_any {e : Endpoint} (h : e ≠ .any) : e.drawn var = "(" ++ var ++ ")" := by
  cases e with
  | any => exact absurd rfl h
  | _ => rfl

theorem exists_binds (addressing : Addressing) (var : String) {e : Endpoint} (h : e ≠ .any) :
    ∃ item ∈ e.startTexts addressing var ++ e.matchTexts addressing var, Binds var item := by
  cases e with
  | any => exact absurd rfl h
  | node id =>
    cases addressing with
    | start =>
      refine ⟨_, List.mem_singleton_self _, ?_⟩
      rw [String.append_assoc]
      exact .start _
    | condition =>
      refine ⟨_, List.mem_singleton_self _, ?_⟩
      exact .front ")"
  | selected nodes =>
    refine ⟨_, List.mem_singleton_self _, ?_⟩
    rw [String.append_assoc]
    exact .front _

/-- What folding leaves out is a variable and nothing else. -/
theorem mem_foldedTexts_or_bare {e : Endpoint} {item : String}
    (h : item ∈ e.matchTexts addressing var) :
    item ∈ e.foldedTexts var ∨ e ≠ .any ∧ item = "(" ++ var ++ ")" := by
  cases e with
  | any => simp [matchTexts] at h
  | node id =>
    cases addressing with
    | start => simp [matchTexts] at h
    | condition => exact .inr ⟨by simp, List.mem_singleton.mp h⟩
  | selected nodes =>
    have hitem : item = "(" ++ var ++ nodes.text ++ ")" := List.mem_singleton.mp h
    by_cases hnodes : nodes.labels = [] ∧ nodes.filter.isNone
    · rw [(text_eq_empty_iff nodes).mpr hnodes, String.append_empty] at hitem
      exact .inr ⟨by simp, hitem⟩
    · left
      show item ∈ if _ then _ else _
      rw [if_neg hnodes]
      exact List.mem_singleton.mpr hitem

end Endpoint

namespace Cypher

/-- The relationship between the two sides of a drawing: a type that is not empty after a colon, and
properties that are not empty after a space. -/
def drawnRelation (relType : Option String) (properties : String) : String :=
  "-[r" ++
    (match relType with
    | none => ""
    | some t => if t = "" then "" else ":" ++ t) ++
    (if properties = "" then "" else " " ++ properties) ++ "]-"

theorem drawnRelation_eq (relType : Option String) (properties : String) :
    drawnRelation relType properties
      = "-[" ++ relation ++ Shape.typeLabel relType ++ afterSpace properties ++ "]-" := by
  have htype : Shape.typeLabel relType = (match relType with
      | none => ""
      | some t => if t = "" then "" else ":" ++ t) := by
    cases relType with
    | none => rfl
    | some t => by_cases ht : t = "" <;> simp [Shape.typeLabel, ht, labels]
  have hproperties : afterSpace properties
      = if properties = "" then "" else " " ++ properties := by
    by_cases h : properties = "" <;> simp [afterSpace, h]
  have hopening : "-[" ++ relation = "-[r" := rfl
  rw [htype, hproperties, hopening]
  rfl

namespace Ends

/-- Both endpoints with their variables, the source first. -/
def sides (e : Ends) : List (Endpoint × String) :=
  [(e.source, "n"), (e.target, "m")]

variable (e : Ends) (addressing : Addressing) (relType : Option String) (properties : String)

theorem flatMap_sides {α : Type} (f : Endpoint × String → List α) :
    e.sides.flatMap f = f (e.source, "n") ++ f (e.target, "m") := by
  simp [sides]

/-- The starting points of both endpoints. -/
def startTexts : List String :=
  e.sides.flatMap fun side => side.1.startTexts addressing side.2

/-- The nodes that both endpoints match. -/
def matchTexts : List String :=
  e.sides.flatMap fun side => side.1.matchTexts addressing side.2

/-- The nodes that both endpoints match, without those that say nothing but their variable. -/
def foldedTexts : List String :=
  e.sides.flatMap fun side => side.1.foldedTexts side.2

/-- The conditions of both endpoints. -/
def conditionTexts : List String :=
  e.sides.flatMap fun side => side.1.conditionTexts addressing side.2

/-! ### The drawing -/

theorem side_eq (e : Endpoint) (var : String) : Shape.side e.hasVariable var = e.drawn var := by
  cases e <;> rfl

theorem isDirected_iff :
    e.shape.isDirected = true ↔ e.eitherWay = false ∧ (e.source ≠ .any ∨ e.target ≠ .any) := by
  show (!e.eitherWay && (e.source.hasVariable || e.target.hasVariable)) = true ↔ _
  rw [Bool.and_eq_true, Bool.or_eq_true, Endpoint.hasVariable_iff, Endpoint.hasVariable_iff,
    Bool.not_eq_true']

/-- **How a relationship is drawn.** -/
theorem pattern_eq : e.pattern relType properties
    = e.source.drawn "n" ++ drawnRelation relType properties ++
      (if e.shape.isDirected then ">" else "") ++ e.target.drawn "m" := by
  rw [drawnRelation_eq]
  unfold Ends.pattern Shape.pattern
  simp only [shape, side_eq, String.append_assoc]
  rfl

/-- The drawing binds the variables of all endpoints that are not any node. -/
theorem binds_pattern {side : Endpoint × String} (hside : side ∈ e.sides) (h : side.1 ≠ .any) :
    Binds side.2 (e.pattern relType properties) := by
  rw [pattern_eq]
  rcases List.mem_cons.mp hside with rfl | hside
  · rw [Endpoint.drawn_of_ne_any h, String.append_assoc, String.append_assoc, String.append_assoc]
    exact .front _
  · obtain rfl := List.mem_singleton.mp hside
    rw [Endpoint.drawn_of_ne_any h, ← String.append_assoc, ← String.append_assoc]
    exact .back _

/-! ### The clauses -/

theorem starts_clauses :
    (e.clauses addressing).starts.map Anchor.node = e.startTexts addressing := by
  rw [clauses_eq, List.map_append, Endpoint.map_node_anchors, Endpoint.map_node_anchors,
    startTexts, flatMap_sides]
  rfl

theorem nodes_clauses :
    (e.clauses addressing).nodes.map NodeItem.text = e.matchTexts addressing := by
  rw [clauses_eq, List.map_append, Endpoint.map_text_matched (by decide),
    Endpoint.map_text_matched (by decide), matchTexts, flatMap_sides]
  rfl

theorem nodes_withoutBareNodes :
    (e.clauses addressing).withoutBareNodes.nodes.map NodeItem.text = e.foldedTexts := by
  unfold Clauses.withoutBareNodes
  rw [clauses_eq, List.filter_append, List.map_append, Endpoint.map_text_folded (by decide),
    Endpoint.map_text_folded (by decide), foldedTexts, flatMap_sides]
  rfl

theorem conditions_clauses :
    (e.clauses addressing).conditions.map Anchor.condition = e.conditionTexts addressing := by
  rw [clauses_eq, List.map_append, Endpoint.map_condition_conditions,
    Endpoint.map_condition_conditions, conditionTexts, flatMap_sides]
  rfl

theorem paths_clauses : (e.clauses addressing).paths = [] := by
  rw [clauses_eq]

/-- Without any clause the relationship has to be there. -/
theorem attach_of_any (h : e.source = .any ∧ e.target = .any) (pattern : String)
    (attachment : Attachment) :
    (e.clauses addressing).attach pattern attachment = "MATCH " ++ pattern := by
  refine if_pos ?_
  rw [isEmpty_clauses, h.1, h.2]
  rfl

theorem isEmpty_clauses_eq_false (h : ¬(e.source = .any ∧ e.target = .any)) :
    (e.clauses addressing).isEmpty = false := by
  rw [isEmpty_clauses, ← Bool.not_or, Bool.not_eq_false', Bool.or_eq_true,
    Endpoint.hasVariable_iff, Endpoint.hasVariable_iff]
  exact Classical.not_and_iff_not_or_not.mp h

/-- What endpoints ask for stands in front of a relationship that may be missing. -/
theorem attach_optional (h : ¬(e.source = .any ∧ e.target = .any)) (pattern : String) :
    (e.clauses addressing).attach pattern .optional
      = " ".intercalate (keyworded "START" ", " (e.startTexts addressing) ++
          keyworded "MATCH" ", " (e.matchTexts addressing) ++
          keyworded "WHERE" " AND " (e.conditionTexts addressing)) ++
        " OPTIONAL MATCH " ++ pattern := by
  unfold Clauses.attach Clauses.text
  rw [isEmpty_clauses_eq_false e addressing h, starts_clauses, nodes_clauses, conditions_clauses,
    paths_clauses, List.append_nil, words_listed]
  rfl

/-- A relationship that has to be there stands behind the nodes that say something. -/
theorem attach_folded (h : ¬(e.source = .any ∧ e.target = .any)) (pattern : String) :
    (e.clauses addressing).attach pattern .folded
      = " ".intercalate (keyworded "START" ", " (e.startTexts addressing) ++
          keyworded "MATCH" ", " (e.foldedTexts ++ [pattern]) ++
          keyworded "WHERE" " AND " (e.conditionTexts addressing)) := by
  have htext : (e.clauses addressing).attach pattern .folded
      = words [
          listed "START" ", " ((e.clauses addressing).starts.map Anchor.node),
          listed "MATCH" ", " ((e.clauses addressing).withoutBareNodes.nodes.map NodeItem.text ++
            ((e.clauses addressing).paths ++ [pattern])),
          listed "WHERE" " AND " ((e.clauses addressing).conditions.map Anchor.condition)] := by
    unfold Clauses.attach
    rw [isEmpty_clauses_eq_false e addressing h]
    rfl
  rw [htext, starts_clauses, nodes_withoutBareNodes, conditions_clauses, paths_clauses,
    List.nil_append, words_listed]

/-- **Every constraint is kept and every variable bound.**  The drawing names the variables of the
endpoints that are not any node, and has an arrow when the direction matters and there is such an
endpoint.  Without one, the drawing alone is matched.  Otherwise the starting points, the nodes to
match and the conditions of both endpoints, each kind behind its keyword and with one space between
the clauses that have an item, stand in front of a relationship that may be missing; a relationship
that has to be there is matched behind those nodes that have labels or a filter.  What is left out
then is a variable alone.  The variable of each endpoint is bound, by the clauses and by the
drawing. -/
theorem matched_keeps_endpoints :
    (e.eitherWay = false ∧ (e.source ≠ .any ∨ e.target ≠ .any) → e.pattern relType properties
      = e.source.drawn "n" ++ drawnRelation relType properties ++ ">" ++ e.target.drawn "m") ∧
    (¬(e.eitherWay = false ∧ (e.source ≠ .any ∨ e.target ≠ .any)) → e.pattern relType properties
      = e.source.drawn "n" ++ drawnRelation relType properties ++ e.target.drawn "m") ∧
    (e.source = .any ∧ e.target = .any → ∀ attachment,
      e.matched addressing attachment relType properties
        = "MATCH " ++ e.pattern relType properties) ∧
    (¬(e.source = .any ∧ e.target = .any) →
      e.matched addressing .optional relType properties
        = " ".intercalate (keyworded "START" ", " (e.startTexts addressing) ++
            keyworded "MATCH" ", " (e.matchTexts addressing) ++
            keyworded "WHERE" " AND " (e.conditionTexts addressing)) ++
          " OPTIONAL MATCH " ++ e.pattern relType properties ∧
      e.matched addressing .folded relType properties
        = " ".intercalate (keyworded "START" ", " (e.startTexts addressing) ++
            keyworded "MATCH" ", " (e.foldedTexts ++ [e.pattern relType properties]) ++
            keyworded "WHERE" " AND " (e.conditionTexts addressing))) ∧
    (∀ item ∈ e.matchTexts addressing, item ∈ e.foldedTexts ∨
      ∃ side ∈ e.sides, side.1 ≠ .any ∧ item = "(" ++ side.2 ++ ")") ∧
    ∀ side ∈ e.sides, side.1 ≠ .any → Binds side.2 (e.pattern relType properties) ∧
      ∃ item ∈ e.startTexts addressing ++ e.matchTexts addressing, Binds side.2 item := by
  have hpattern := pattern_eq e relType properties
  refine ⟨fun h => ?_, fun h => ?_, fun h attachment => attach_of_any e addressing h _ attachment,
    fun h => ⟨attach_optional e addressing h _, attach_folded e addressing h _⟩,
    fun item hitem => ?_, fun side hside h => ⟨binds_pattern e relType properties hside h, ?_⟩⟩
  · rw [hpattern, if_pos ((isDirected_iff e).mpr h)]
  · rw [hpattern, if_neg (mt (isDirected_iff e).mp h), String.append_empty]
  · obtain ⟨side, hside, hmatch⟩ := List.mem_flatMap.mp hitem
    rcases Endpoint.mem_foldedTexts_or_bare hmatch with hfolded | hbare
    · exact .inl (List.mem_flatMap.mpr ⟨side, hside, hfolded⟩)
    · exact .inr ⟨side, hside, hbare⟩
  · obtain ⟨item, hitem, hbinds⟩ := Endpoint.exists_binds addressing side.2 h
    -- what one side asks for is among what both sides ask for
    rcases List.mem_append.mp hitem with hstart | hmatch
    · exact ⟨item, List.mem_append_left _ (List.mem_flatMap.mpr ⟨side, hside, hstart⟩), hbinds⟩
    · exact ⟨item, List.mem_append_right _ (List.mem_flatMap.mpr ⟨side, hside, hmatch⟩), hbinds⟩

/-- A city by its name, and a node by its identity. -/
def osloAndFive : Ends :=
  let oslo : NodeSelector :=
    { labels := ["City"], filter := some (.ofList [("name", .string "Oslo")]) }
  ⟨.selected oslo, .node ⟨5⟩, false⟩

/-- The node with an identity is matched before a relationship that may be missing, and left to the
drawing when it has to be there; as a starting point it stays in both cases. -/
theorem matched_keeps_endpoints_osloAndFive :
    ¬(osloAndFive.source = .any ∧ osloAndFive.target = .any) ∧
    osloAndFive.matched .condition .optional (some "NEAR") ""
      = "MATCH (n:City \x7b name: \"Oslo\" \x7d), (m) WHERE id(m) = 5" ++
        " OPTIONAL MATCH (n)-[r:NEAR]->(m)" ∧
    osloAndFive.matched .condition .folded (some "NEAR") ""
      = "MATCH (n:City \x7b name: \"Oslo\" \x7d), (n)-[r:NEAR]->(m) WHERE id(m) = 5" ∧
    osloAndFive.matched .start .optional none "\x7b km: 3 \x7d"
      = "START m=node(5) MATCH (n:City \x7b name: \"Oslo\" \x7d)" ++
        " OPTIONAL MATCH (n)-[r \x7b km: 3 \x7d]->(m)" ∧
    osloAndFive.matched .start .folded none "\x7b km: 3 \x7d"
      = "START m=node(5) MATCH (n:City \x7b name: \"Oslo\" \x7d)," ++
        " (n)-[r \x7b km: 3 \x7d]->(m)" := by
  have hends : ¬(osloAndFive.source = .any ∧ osloAndFive.target = .any) := by
    rintro ⟨h, -⟩
    cases h
  obtain ⟨-, -, -, hcondition, -⟩ :=
    matched_keeps_endpoints osloAndFive .condition (some "NEAR") ""
  obtain ⟨-, -, -, hstart, -⟩ :=
    matched_keeps_endpoints osloAndFive .start none "\x7b km: 3 \x7d"
  refine ⟨hends, (hcondition hends).1.trans ?_, (hcondition hends).2.trans ?_,
    (hstart hends).1.trans ?_, (hstart hends).2.trans ?_⟩
  all_goals decide +kernel

end Ends

end Cypher

end PropertyGraph
