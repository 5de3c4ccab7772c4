import PropertyGraph.Proofs.Cypher.Slots
import PropertyGraph.Proofs.Cypher.FaithfulNodes

/-!
# Statements on relationships are faithful

A statement on relationships determines its endpoints, its type, its direction, its filter and what
it sets.  The clauses are read slot by slot; in each slot the variable says which endpoint an item
belongs to, and the three slots together say of which kind the endpoint is.  What a statement does
not determine is listed here completely: an empty type is an absent one, and the direction between
two nodes without variables is not drawn.

## Main definitions

* `RelationSelector.IsReadable` — names are words and numbers integers, in endpoints and filter.
* `RelationSelector.canonical` — the selector without what its text does not show.
* `Endpoint.located` — the nodes that an endpoint matches, each with its variable.
* `slotsText` — the clauses of two endpoints, each after a space.

## Main results

* `readable_slots` — **the clauses determine both endpoints.**
* `matching_append_inj` — the clauses and the drawing determine the canonical selector.
* `relationStatements_eq_iff` — **statements on relationships are faithful.**
-/

namespace PropertyGraph

open Text

/-- Labels and names in the filter are words, and numbers in the filter are integers. -/
def Endpoint.IsReadable : Endpoint → Prop
  | .any => True
  | .node _ => True
  | .selected nodes => nodes.IsReadable

instance : DecidablePred Endpoint.IsReadable
  | .any => isTrue trivial
  | .node _ => isTrue trivial
  | .selected nodes => inferInstanceAs (Decidable nodes.IsReadable)

/-- The same for both endpoints and the filter, and the type is a word, too. -/
structure RelationSelector.IsReadable (s : RelationSelector) : Prop where
  /-- The side where the relationship starts. -/
  source : s.source.IsReadable
  /-- The side where the relationship ends. -/
  target : s.target.IsReadable
  /-- The type. -/
  relType : ∀ t ∈ s.relType, IsWord t
  /-- The filter. -/
  filter : ∀ m ∈ s.filter, m.IsReadable

/-- A type, unless it is empty. -/
def typeOf (relType : Option String) : Option String :=
  relType.filter fun t => !t.isEmpty

/-- The selector without what its text does not show: an empty type, and whether a relationship
between two nodes without variables may go either way. -/
def RelationSelector.canonical (s : RelationSelector) : RelationSelector :=
  { s with
    relType := typeOf s.relType
    eitherWay := s.eitherWay && (s.source.hasVariable || s.target.hasVariable) }

namespace Endpoint

open Cypher

/-- The nodes that an endpoint matches, each with its variable. -/
def located (addressing : Addressing) (var : String) (e : Endpoint) :
    List (String × NodeSelector) :=
  (e.selectors addressing).map fun nodes => (var, nodes)

theorem var_of_mem_located {addressing : Addressing} {var : String} {e : Endpoint}
    {i : String × NodeSelector} (h : i ∈ e.located addressing var) : i.1 = var := by
  obtain ⟨nodes, -, rfl⟩ := List.mem_map.mp h
  rfl

theorem isReadable_of_mem_located {addressing : Addressing} {var : String} {e : Endpoint}
    (he : e.IsReadable) {i : String × NodeSelector} (h : i ∈ e.located addressing var) :
    i.2.IsReadable := by
  obtain ⟨nodes, hnodes, rfl⟩ := List.mem_map.mp h
  cases e with
  | any => simp [selectors] at hnodes
  | selected s =>
    rw [List.mem_singleton.mp hnodes]
    exact he
  | node id =>
    cases addressing with
    | start => simp [selectors] at hnodes
    | condition =>
      rw [List.mem_singleton.mp hnodes]
      show NodeSelector.IsReadable {}
      decide

theorem located_inj {addressing : Addressing} {var : String} {e e' : Endpoint}
    (h : e.located addressing var = e'.located addressing var) :
    e.selectors addressing = e'.selectors addressing :=
  List.map_injective_iff.mpr (fun _ _ h => (Prod.mk.inj h).2) h

/-- **What an endpoint puts into the three slots determines it.** -/
theorem eq_of_slots {addressing : Addressing} {var : String} {e e' : Endpoint}
    (hstart : e.anchors addressing var = e'.anchors addressing var)
    (hmatch : e.selectors addressing = e'.selectors addressing)
    (hwhere : e.conditions addressing var = e'.conditions addressing var) : e = e' := by
  -- a node with an identity is the only kind with an anchor or a condition
  cases addressing <;> cases e <;> cases e' <;>
    simp_all [anchors, selectors, conditions]

/-- Only an endpoint that is any node has no variable. -/
theorem eq_any_of_no_variable {e : Endpoint} (h : e.hasVariable = false) : e = .any := by
  cases e with
  | any => rfl
  | node id => exact Bool.noConfusion h
  | selected nodes => exact Bool.noConfusion h

end Endpoint

namespace Cypher

/-! ### The slots of two endpoints -/

/-- A node to match, between parentheses. -/
def locatedText (i : String × NodeSelector) : String :=
  "(" ++ i.1 ++ i.2.text ++ ")"

theorem readable_located (words : List String) :
    Readable (fun i : String × NodeSelector => IsWord i.1 ∧ i.2.IsReadable) locatedText words := by
  rintro ⟨v, nodes⟩ ⟨v', nodes'⟩ hx hy r s hr hs heq
  have hbegins : ∀ (nodes : NodeSelector) (t : String),
      Begins [":", " ", ")"] (nodes.text ++ (")" ++ t)) := by
    intro nodes t
    have hclose : Begins [")"] (")" ++ t) := .self _ t
    unfold NodeSelector.text
    rw [String.append_assoc]
    exact begins_labels (begins_optional hclose " " nodes.filter) nodes.labels
  simp only [locatedText, String.append_assoc, String.append_right_inj] at heq
  obtain ⟨rfl, hbehind⟩ := readable_run _ (by decide) hx.1 hy.1 (hbegins nodes r) (hbegins nodes' s)
    heq
  obtain ⟨rfl, hclose⟩ := readable_selector hx.2 hy.2 (.self _ r) (.self _ s) hbehind
  exact ⟨rfl, (String.append_right_inj _).mp hclose⟩

/-- The clauses of two endpoints, each after a space. -/
def slotsText (addressing : Addressing) (ends : Endpoint × Endpoint) : String :=
  afterSpace (listed "START" ", "
    ((ends.1.anchors addressing node ++ ends.2.anchors addressing otherNode).map Anchor.node)) ++
  (afterSpace (listed "MATCH" ", "
    ((ends.1.located addressing node ++ ends.2.located addressing otherNode).map locatedText)) ++
  afterSpace (listed "WHERE" " AND "
    ((ends.1.conditions addressing node ++ ends.2.conditions addressing otherNode).map
      Anchor.condition)))

theorem map_text_items {addressing : Addressing} {var : String} (hvar : var ≠ "") (e : Endpoint) :
    (e.items addressing var).map NodeItem.text = (e.located addressing var).map locatedText := by
  unfold Endpoint.items Endpoint.located
  rw [List.map_map, List.map_map]
  apply List.map_congr_left
  intro nodes _
  have hv : var.isEmpty = false := isEmpty_eq_false hvar
  simp [NodeItem.text, locatedText, hv]

theorem afterSpace_clauses (e : Ends) (addressing : Addressing) :
    afterSpace (e.clauses addressing).text = slotsText addressing (e.source, e.target) := by
  have hnodes : (e.source.items addressing node ++ e.target.items addressing otherNode).map
      NodeItem.text = (e.source.located addressing node ++
        e.target.located addressing otherNode).map locatedText := by
    rw [List.map_append, List.map_append, map_text_items (by decide), map_text_items (by decide)]
  rw [Ends.clauses_eq]
  unfold Clauses.text slotsText
  simp only [afterSpace_words_cons, afterSpace_words_nil, String.append_empty, List.append_nil,
    hnodes]

/-- Items of the source and of the target in one slot are told apart by their variables. -/
theorem append_inj_of_var {α : Type} (var : α → String) {xs xs' ys ys' : List α}
    (hx : ∀ x ∈ xs, var x = node) (hx' : ∀ x ∈ xs', var x = node)
    (hy : ∀ y ∈ ys, var y = otherNode) (hy' : ∀ y ∈ ys', var y = otherNode)
    (h : xs ++ ys = xs' ++ ys') : xs = xs' ∧ ys = ys' := by
  have hstops : ∀ {zs : List α}, (∀ z ∈ zs, var z = otherNode) →
      Stops (fun x => var x == node) zs := by
    intro zs hzs z hz
    show (var z == node) = false
    rw [hzs z (List.mem_of_mem_head? hz)]
    rfl
  exact append_inj_of_stops (p := fun x => var x == node) (fun x h => by simp [hx x h])
    (fun x h => by simp [hx' x h]) (hstops hy) (hstops hy') h

/-- The variables of a slot are words. -/
theorem isWord_var {α : Type} (var : α → String) {xs ys : List α} (hx : ∀ x ∈ xs, var x = node)
    (hy : ∀ y ∈ ys, var y = otherNode) : ∀ z ∈ xs ++ ys, IsWord (var z) := by
  intro z hz
  rcases List.mem_append.mp hz with hz | hz
  · rw [hx z hz]
    decide
  · rw [hy z hz]
    decide

theorem isWord_anchors {addressing : Addressing} (source target : Endpoint) :
    ∀ a ∈ source.anchors addressing node ++ target.anchors addressing otherNode, IsWord a.var :=
  isWord_var Anchor.var (fun _ => Endpoint.var_of_mem_anchors)
    (fun _ => Endpoint.var_of_mem_anchors)

theorem isWord_conditions {addressing : Addressing} (source target : Endpoint) :
    ∀ a ∈ source.conditions addressing node ++ target.conditions addressing otherNode,
      IsWord a.var :=
  isWord_var Anchor.var (fun _ => Endpoint.var_of_mem_conditions)
    (fun _ => Endpoint.var_of_mem_conditions)

theorem isReadable_located {addressing : Addressing} {source target : Endpoint}
    (hs : source.IsReadable) (ht : target.IsReadable) :
    ∀ i ∈ source.located addressing node ++ target.located addressing otherNode,
      IsWord i.1 ∧ i.2.IsReadable := by
  intro i hi
  refine ⟨isWord_var Prod.fst (fun _ => Endpoint.var_of_mem_located)
    (fun _ => Endpoint.var_of_mem_located) i hi, ?_⟩
  rcases List.mem_append.mp hi with hi | hi
  · exact Endpoint.isReadable_of_mem_located hs hi
  · exact Endpoint.isReadable_of_mem_located ht hi

/-- **The clauses determine both endpoints**, in front of what creates or matches a relationship. -/
theorem readable_slots (addressing : Addressing) :
    Readable (fun ends : Endpoint × Endpoint => ends.1.IsReadable ∧ ends.2.IsReadable)
      (slotsText addressing) [" CREATE ", " OPTIONAL "] := by
  rintro ⟨source, target⟩ ⟨source', target'⟩ hx hy r s hr hs heq
  simp only [slotsText, String.append_assoc] at heq
  -- the starting points
  have hstarts := readable_listed "START" ", "
    (readable_anchor_node [", ", " MATCH ", " WHERE ", " CREATE ", " OPTIONAL "]) (by decide)
    (by decide)
  obtain ⟨hstart, heq⟩ := hstarts (isWord_anchors source target) (isWord_anchors source' target')
    (begins_listed (begins_listed hr "WHERE" " AND " _) "MATCH" ", " _)
    (begins_listed (begins_listed hs "WHERE" " AND " _) "MATCH" ", " _) heq
  -- the nodes to match
  have hnodes := readable_listed "MATCH" ", "
    (readable_located [", ", " WHERE ", " CREATE ", " OPTIONAL "]) (by decide) (by decide)
  obtain ⟨hmatch, heq⟩ := hnodes (isReadable_located hx.1 hx.2) (isReadable_located hy.1 hy.2)
    (begins_listed hr "WHERE" " AND " _) (begins_listed hs "WHERE" " AND " _) heq
  -- the conditions
  have hconditions := readable_listed "WHERE" " AND "
    (readable_anchor_condition [" AND ", " CREATE ", " OPTIONAL "] (by decide))
    (by decide) (by decide)
  obtain ⟨hwhere, hrs⟩ := hconditions (isWord_conditions source target)
    (isWord_conditions source' target') hr hs heq
  -- in each slot, what belongs to the source and what belongs to the target
  obtain ⟨hstart₁, hstart₂⟩ := append_inj_of_var Anchor.var
    (fun _ => Endpoint.var_of_mem_anchors) (fun _ => Endpoint.var_of_mem_anchors)
    (fun _ => Endpoint.var_of_mem_anchors) (fun _ => Endpoint.var_of_mem_anchors) hstart
  obtain ⟨hmatch₁, hmatch₂⟩ := append_inj_of_var Prod.fst
    (fun _ => Endpoint.var_of_mem_located) (fun _ => Endpoint.var_of_mem_located)
    (fun _ => Endpoint.var_of_mem_located) (fun _ => Endpoint.var_of_mem_located) hmatch
  obtain ⟨hwhere₁, hwhere₂⟩ := append_inj_of_var Anchor.var
    (fun _ => Endpoint.var_of_mem_conditions) (fun _ => Endpoint.var_of_mem_conditions)
    (fun _ => Endpoint.var_of_mem_conditions) (fun _ => Endpoint.var_of_mem_conditions) hwhere
  obtain rfl := Endpoint.eq_of_slots hstart₁ (Endpoint.located_inj hmatch₁) hwhere₁
  obtain rfl := Endpoint.eq_of_slots hstart₂ (Endpoint.located_inj hmatch₂) hwhere₂
  exact ⟨rfl, hrs⟩

/-! ### The drawing -/

/-- The type in a drawing is the type unless it is empty. -/
theorem typeLabel_eq (relType : Option String) :
    Shape.typeLabel relType = (typeOf relType).elim "" fun t => ":" ++ t := by
  cases relType with
  | none => rfl
  | some t =>
    unfold Shape.typeLabel typeOf
    by_cases ht : t = ""
    · subst ht
      rfl
    · have htype : t.isEmpty = false := isEmpty_eq_false ht
      simp [Option.filter, htype, labels]

/-- A type is readable after the variable of a relationship. -/
theorem readable_type : Readable (fun o : Option String => ∀ t ∈ o, IsWord t)
    (fun o => o.elim "" fun t => ":" ++ t) [" ", "]-"] :=
  (readable_run (p := isWordChar) _ (by decide)).optional (by decide)

theorem isWord_typeOf {relType : Option String} (h : ∀ t ∈ relType, IsWord t) :
    ∀ t ∈ typeOf relType, IsWord t := by
  intro t ht
  exact h t (Option.mem_filter_iff.mp ht).1

/-- A side of a drawing begins with a parenthesis. -/
theorem begins_side (named : Bool) (var r : String) :
    Begins ["("] (Shape.side named var ++ r) := by
  cases named with
  | false => exact .self "(" (")" ++ r)
  | true =>
    have hside : Shape.side true var ++ r = "(" ++ (var ++ ")" ++ r) := by
      simp only [Shape.side, if_true, String.append_assoc]
    rw [hside]
    exact .self "(" _

/-- The drawing between two given endpoints determines the type, the filter, and, when one of the
endpoints has a variable, the direction. -/
theorem pattern_append_inj {source target : Endpoint} {either either' : Bool}
    {relType relType' : Option String} {filter filter' : Option Properties}
    (ht : ∀ t ∈ relType, IsWord t) (ht' : ∀ t ∈ relType', IsWord t)
    (hf : ∀ m ∈ filter, m.IsReadable) (hf' : ∀ m ∈ filter', m.IsReadable) {r r' : String}
    (h : Ends.pattern ⟨source, target, either⟩ relType (filterLiterals filter) ++ r
      = Ends.pattern ⟨source, target, either'⟩ relType' (filterLiterals filter') ++ r') :
    typeOf relType = typeOf relType' ∧
      (either && (source.hasVariable || target.hasVariable))
        = (either' && (source.hasVariable || target.hasVariable)) ∧
      filter = filter' ∧ r = r' := by
  have hclose : ∀ (filter : Option Properties) (t : String),
      Begins [" ", "]-"] (afterSpace (filterLiterals filter) ++ ("]-" ++ t)) := by
    intro filter t
    rw [afterSpace_filterLiterals]
    exact begins_optional (.self _ t) " " filter
  simp only [Ends.pattern, Shape.pattern, Ends.shape, typeLabel_eq, String.append_assoc,
    String.append_right_inj] at h
  -- the type, the filter, and the arrow, one after another
  obtain ⟨htype, h⟩ := readable_type (isWord_typeOf ht) (isWord_typeOf ht') (hclose _ _)
    (hclose _ _) h
  obtain ⟨hfilter, h⟩ := readable_filter ["]-"] (by decide) hf hf' (.self _ _) (.self _ _) h
  obtain ⟨harrow, h⟩ := Readable.flag ">" ["("] (by decide) trivial trivial
    (begins_side _ _ _) (begins_side _ _ _) ((String.append_right_inj _).mp h)
  refine ⟨htype, ?_, hfilter, (String.append_right_inj _).mp h⟩
  -- without a variable there is never an arrow, and otherwise it shows the direction
  unfold Shape.isDirected at harrow
  revert harrow
  cases either <;> cases either' <;> cases source.hasVariable <;> cases target.hasVariable <;>
    decide

/-! ### Clauses and drawing together -/

/-- Joined items begin with the first one. -/
theorem exists_intercalate_eq (sep item : String) (items : List String) :
    ∃ rest, sep.intercalate (item :: items) = item ++ rest := by
  cases items with
  | nil => exact ⟨"", by simp⟩
  | cons other items =>
    exact ⟨_, by rw [String.intercalate_cons_cons, String.append_assoc]⟩

/-- A clause that matches nodes begins with the variable of the first one. -/
theorem exists_match_append_eq (i : String × NodeSelector) (nodes : List (String × NodeSelector))
    (r : String) : ∃ rest, afterSpace (listed "MATCH" ", " ((i :: nodes).map locatedText)) ++ r
      = " MATCH (" ++ i.1 ++ rest := by
  obtain ⟨rest, hrest⟩ := exists_intercalate_eq ", " (locatedText i) (nodes.map locatedText)
  have hword : " MATCH (" = " " ++ "MATCH" ++ " " ++ "(" := rfl
  refine ⟨i.2.text ++ ")" ++ rest ++ r, ?_⟩
  rw [List.map_cons, afterSpace_listed_append, hrest, hword]
  simp only [locatedText, String.append_assoc]

/-- The clauses of endpoints with a variable begin with a starting point or with a named node. -/
theorem begins_slots {source target : Endpoint}
    (h : source.hasVariable = true ∨ target.hasVariable = true) (addressing : Addressing)
    (r : String) :
    Begins [" START ", " MATCH (n", " MATCH (m"]
      (slotsText addressing (source, target) ++ r) := by
  -- such an endpoint puts something into one of the first two slots
  have hsome : source.anchors addressing node ++ target.anchors addressing otherNode ≠ [] ∨
      source.located addressing node ++ target.located addressing otherNode ≠ [] := by
    cases addressing <;> cases source <;> cases target <;>
      simp_all [Endpoint.anchors, Endpoint.located, Endpoint.selectors, Endpoint.hasVariable]
  have hvars : ∀ i ∈ source.located addressing node ++ target.located addressing otherNode,
      i.1 = node ∨ i.1 = otherNode := by
    intro i hi
    rcases List.mem_append.mp hi with hi | hi
    · exact Or.inl (Endpoint.var_of_mem_located hi)
    · exact Or.inr (Endpoint.var_of_mem_located hi)
  unfold slotsText
  simp only [String.append_assoc]
  generalize source.anchors addressing node ++ target.anchors addressing otherNode = starts at hsome
  generalize source.located addressing node ++ target.located addressing otherNode = nodes
    at hsome hvars
  cases starts with
  | cons start starts =>
    rw [List.map_cons, afterSpace_listed_append]
    exact .of_mem (List.mem_cons_self ..) _
  | nil =>
    cases nodes with
    | nil => simp at hsome
    | cons i nodes =>
      rw [List.map_nil, listed_nil, afterSpace_empty, String.empty_append]
      obtain ⟨rest, hrest⟩ := exists_match_append_eq i nodes _
      rw [hrest]
      rcases hvars i (List.mem_cons_self ..) with hi | hi
      · rw [hi]
        exact .of_mem (w := " MATCH (n") (by simp) _
      · rw [hi]
        exact .of_mem (w := " MATCH (m") (by simp) _

/-- The clauses and the drawing after a space, for endpoints with a variable. -/
theorem space_matched {e : Ends}
    (h : e.source.hasVariable = true ∨ e.target.hasVariable = true) (addressing : Addressing)
    (relType : Option String) (properties : String) :
    " " ++ e.matched addressing .optional relType properties
      = slotsText addressing (e.source, e.target) ++
        (" OPTIONAL " ++ ("MATCH " ++ e.pattern relType properties)) := by
  have hempty : ¬(e.clauses addressing).isEmpty = true := by
    rw [Ends.isEmpty_clauses]
    rcases h with h | h
    · simp [h]
    · simp [h]
  have htext : (e.clauses addressing).text ≠ "" := by
    apply ne_empty_of_afterSpace
    rw [afterSpace_clauses]
    intro hslots
    obtain ⟨w, hw, rest, hbegins⟩ := begins_slots h addressing ""
    rw [hslots] at hbegins
    have hnil := (String.append_eq_empty_iff.mp hbegins.symm).1
    subst hnil
    exact absurd hw (by decide)
  have hword : " OPTIONAL MATCH " = " OPTIONAL " ++ "MATCH " := rfl
  unfold Ends.matched Clauses.attach
  rw [if_neg hempty, ← afterSpace_clauses, afterSpace_of_ne_empty htext]
  simp only [hword, String.append_assoc]

/-- The same for endpoints without one. -/
theorem matched_of_no_variable {e : Ends} (hs : e.source.hasVariable = false)
    (ht : e.target.hasVariable = false) (addressing : Addressing) (relType : Option String)
    (properties : String) :
    e.matched addressing .optional relType properties
      = "MATCH " ++ e.pattern relType properties := by
  have hempty : (e.clauses addressing).isEmpty = true := by
    rw [Ends.isEmpty_clauses, hs, ht]
    rfl
  unfold Ends.matched Clauses.attach
  rw [if_pos hempty]

/-- Clauses for endpoints with a variable are not those for endpoints without one. -/
theorem matched_append_ne {e e' : Ends} (hs : e.source.hasVariable = false)
    (ht : e.target.hasVariable = false)
    (h : e'.source.hasVariable = true ∨ e'.target.hasVariable = true) (addressing : Addressing)
    (relType relType' : Option String) (properties properties' r r' : String) :
    e.matched addressing .optional relType properties ++ r
      ≠ e'.matched addressing .optional relType' properties' ++ r' := by
  intro heq
  have hspace := congrArg (" " ++ ·) heq
  have hunnamed : ∀ t : String, " " ++ ("MATCH " ++ (Shape.side false node ++ t))
      = " MATCH ()" ++ t := by
    intro t
    have hword : " MATCH ()" = " " ++ "MATCH " ++ "()" := rfl
    rw [hword]
    simp only [Shape.side, String.append_assoc]
    rfl
  simp only [← String.append_assoc] at hspace
  rw [space_matched h, matched_of_no_variable hs ht] at hspace
  simp only [Ends.pattern, Shape.pattern, Ends.shape, hs, String.append_assoc] at hspace
  rw [hunnamed] at hspace
  exact absurd hspace.symm ((begins_slots h addressing _).ne_append (by decide) _)

/-- The clauses and the drawing determine both endpoints and leave the drawing. -/
theorem matched_append_inj {e e' : Ends} (hs : e.source.IsReadable) (ht : e.target.IsReadable)
    (hs' : e'.source.IsReadable) (ht' : e'.target.IsReadable) {addressing : Addressing}
    {relType relType' : Option String} {properties properties' r r' : String}
    (heq : e.matched addressing .optional relType properties ++ r
      = e'.matched addressing .optional relType' properties' ++ r') :
    e.source = e'.source ∧ e.target = e'.target ∧
      e.pattern relType properties ++ r = e'.pattern relType' properties' ++ r' := by
  by_cases hv : e.source.hasVariable = true ∨ e.target.hasVariable = true
  · by_cases hv' : e'.source.hasVariable = true ∨ e'.target.hasVariable = true
    · -- both have clauses in front, which determine the endpoints
      have hspace := congrArg (" " ++ ·) heq
      simp only [← String.append_assoc] at hspace
      rw [space_matched hv, space_matched hv'] at hspace
      simp only [String.append_assoc] at hspace
      obtain ⟨hends, hbehind⟩ := readable_slots addressing ⟨hs, ht⟩ ⟨hs', ht'⟩
        (.of_mem (w := " OPTIONAL ") (by simp) _) (.of_mem (w := " OPTIONAL ") (by simp) _) hspace
      obtain ⟨hsource, htarget⟩ := Prod.mk.inj hends
      simp only [String.append_right_inj] at hbehind
      exact ⟨hsource, htarget, hbehind⟩
    · simp only [not_or, Bool.not_eq_true] at hv'
      exact absurd heq.symm (matched_append_ne hv'.1 hv'.2 hv addressing _ _ _ _ _ _)
  · simp only [not_or, Bool.not_eq_true] at hv
    by_cases hv' : e'.source.hasVariable = true ∨ e'.target.hasVariable = true
    · exact absurd heq (matched_append_ne hv.1 hv.2 hv' addressing _ _ _ _ _ _)
    · -- both begin with the drawing, and all four endpoints are any node
      simp only [not_or, Bool.not_eq_true] at hv'
      rw [matched_of_no_variable hv.1 hv.2, matched_of_no_variable hv'.1 hv'.2] at heq
      simp only [String.append_assoc, String.append_right_inj] at heq
      refine ⟨?_, ?_, heq⟩
      · rw [Endpoint.eq_any_of_no_variable hv.1, Endpoint.eq_any_of_no_variable hv'.1]
      · rw [Endpoint.eq_any_of_no_variable hv.2, Endpoint.eq_any_of_no_variable hv'.2]

/-- **The clauses and the drawing determine the canonical selector**, whatever follows them. -/
theorem matching_append_inj {s s' : RelationSelector} (h : s.IsReadable) (h' : s'.IsReadable)
    {addressing : Addressing} {r r' : String}
    (heq : matching s addressing ++ r = matching s' addressing ++ r') :
    s.canonical = s'.canonical ∧ r = r' := by
  obtain ⟨hsource, htarget, hpattern⟩ := matched_append_inj h.source h.target
    h'.source h'.target heq
  obtain ⟨source, relType, target, either, filter⟩ := s
  obtain ⟨source', relType', target', either', filter'⟩ := s'
  obtain rfl : source = source' := hsource
  obtain rfl : target = target' := htarget
  obtain ⟨htype, heither, rfl, hrs⟩ := pattern_append_inj h.relType h'.relType h.filter h'.filter
    hpattern
  refine ⟨?_, hrs⟩
  unfold RelationSelector.canonical
  simp only [htype, heither]

/-- The drawing shows of a type only what it comes down to. -/
theorem pattern_congr (e : Ends) {relType relType' : Option String}
    (h : typeOf relType = typeOf relType') (properties : String) :
    e.pattern relType properties = e.pattern relType' properties := by
  unfold Ends.pattern Shape.pattern
  rw [typeLabel_eq, typeLabel_eq, h]

theorem typeOf_typeOf (relType : Option String) : typeOf (typeOf relType) = typeOf relType := by
  unfold typeOf
  rw [Option.filter_filter]
  simp only [Bool.and_self]

/-- The clauses and the drawing show of a selector only its canonical form. -/
theorem matching_canonical (s : RelationSelector) (addressing : Addressing) :
    matching s.canonical addressing = matching s addressing := by
  have hclauses : s.canonical.ends.clauses addressing = s.ends.clauses addressing := rfl
  have hpattern : ∀ properties, s.canonical.ends.pattern s.canonical.relType properties
      = s.ends.pattern s.relType properties := by
    intro properties
    have htype : typeOf s.canonical.relType = typeOf s.relType := typeOf_typeOf s.relType
    rw [pattern_congr _ htype]
    have hdirected : s.canonical.ends.shape.isDirected = s.ends.shape.isDirected := by
      show (!(s.eitherWay && (s.source.hasVariable || s.target.hasVariable)) &&
        (s.source.hasVariable || s.target.hasVariable))
        = (!s.eitherWay && (s.source.hasVariable || s.target.hasVariable))
      cases s.eitherWay <;> cases (s.source.hasVariable || s.target.hasVariable) <;> rfl
    unfold Ends.pattern Shape.pattern
    rw [hdirected]
    rfl
  unfold matching Ends.matched
  rw [hclauses, hpattern]
  rfl

theorem matching_eq_of_canonical_eq {s s' : RelationSelector} (h : s.canonical = s'.canonical)
    (addressing : Addressing) : matching s addressing = matching s' addressing := by
  rw [← matching_canonical s, h, matching_canonical]

/-! ### The four statements -/

/-- The text of a creation after a space. -/
theorem space_connect (source : Endpoint) (relType : Option String) (target : Endpoint)
    (data : Properties) :
    " " ++ (connect source relType target data).text
      = slotsText .start (source, target) ++ (" CREATE " ++
        (Ends.pattern ⟨source, target, false⟩ relType (placeholders data) ++
          returning relation)) := by
  have hwords : ∀ a b : String, " " ++ words [a, "CREATE " ++ b]
      = afterSpace a ++ (" CREATE " ++ b) := by
    intro a b
    have hword : " CREATE " = " " ++ "CREATE " := rfl
    have hcreate : afterSpace ("CREATE " ++ b) = " CREATE " ++ b := by
      rw [afterSpace_of_ne_empty (by simp), hword, String.append_assoc]
    have hall : afterSpace (words [a, "CREATE " ++ b]) = afterSpace a ++ (" CREATE " ++ b) := by
      rw [afterSpace_words_cons, afterSpace_words_cons, afterSpace_words_nil, String.append_empty,
        hcreate]
    have hne : words [a, "CREATE " ++ b] ≠ "" := by
      apply ne_empty_of_afterSpace
      rw [hall]
      simp
    rw [← hall, afterSpace_of_ne_empty hne]
  show " " ++ (words [_, _] ++ _) = _
  rw [← String.append_assoc, hwords, afterSpace_clauses]
  simp only [String.append_assoc]

/-- A creation determines its endpoints, its type unless it is empty, and its data. -/
theorem connect_eq_iff {source source' target target' : Endpoint}
    {relType relType' : Option String} {data data' : Properties} (hs : source.IsReadable)
    (hs' : source'.IsReadable) (ht : target.IsReadable) (ht' : target'.IsReadable)
    (hr : ∀ t ∈ relType, IsWord t) (hr' : ∀ t ∈ relType', IsWord t) :
    connect source relType target data = connect source' relType' target' data'
      ↔ source = source' ∧ typeOf relType = typeOf relType' ∧ target = target' ∧ data = data' := by
  constructor
  · intro heq
    obtain rfl : data = data' := Properties.nonempty?_injective (congrArg Statement.params heq)
    have htext := congrArg (" " ++ Statement.text ·) heq
    simp only [space_connect] at htext
    obtain ⟨hends, hbehind⟩ := readable_slots .start ⟨hs, ht⟩ ⟨hs', ht'⟩
      (.of_mem (w := " CREATE ") (by simp) _) (.of_mem (w := " CREATE ") (by simp) _) htext
    obtain ⟨rfl, rfl⟩ := Prod.mk.inj hends
    simp only [Ends.pattern, Shape.pattern, typeLabel_eq, String.append_assoc,
      String.append_right_inj, String.append_left_inj] at hbehind
    have htype := readable_type.eq_of_write_eq (w := " ") (by simp) (isWord_typeOf hr)
      (isWord_typeOf hr') hbehind
    exact ⟨rfl, htype, rfl, rfl⟩
  · rintro ⟨rfl, htype, rfl, rfl⟩
    unfold connect
    simp only [pattern_congr _ htype]

/-- A change determines its canonical selector, its data and its mode. -/
theorem setRelations_eq_iff {s s' : RelationSelector} {data data' : Properties}
    {mode mode' : WriteMode} (h : s.IsReadable) (h' : s'.IsReadable) (hd : data.IsReadable)
    (hd' : data'.IsReadable) :
    setRelations s data mode = setRelations s' data' mode'
      ↔ s.canonical = s'.canonical ∧ data = data' ∧ mode = mode' := by
  constructor
  · intro heq
    have htext := congrArg Statement.text heq
    simp only [setRelations, setting, String.append_assoc] at htext
    obtain ⟨hselector, hbehind⟩ := matching_append_inj h h' htext
    simp only [String.append_right_inj] at hbehind
    obtain ⟨hmode, hbehind⟩ := readable_operator [" "] trivial trivial
      (.self _ _) (.self _ _) hbehind
    obtain ⟨hdata, -⟩ := readable_literals [" RETURN "] hd hd'
      (.self " RETURN " relation) (.self " RETURN " relation)
      ((String.append_right_inj _).mp hbehind)
    exact ⟨hselector, hdata, hmode⟩
  · rintro ⟨hselector, rfl, rfl⟩
    unfold setRelations
    rw [matching_eq_of_canonical_eq hselector]

/-- A deletion determines its canonical selector. -/
theorem deleteRelations_eq_iff {s s' : RelationSelector} (h : s.IsReadable) (h' : s'.IsReadable) :
    deleteRelations s = deleteRelations s' ↔ s.canonical = s'.canonical := by
  constructor
  · intro heq
    exact (matching_append_inj h h' (congrArg Statement.text heq)).1
  · intro hselector
    unfold deleteRelations
    rw [matching_eq_of_canonical_eq hselector]

/-- A search determines its canonical selector and what its page comes down to. -/
theorem findRelations_eq_iff {s s' : RelationSelector} {p p' : Option Paging} (h : s.IsReadable)
    (h' : s'.IsReadable) (hp : ∀ x ∈ pageNames p, IsName x) (hp' : ∀ x ∈ pageNames p', IsName x) :
    findRelations s p = findRelations s' p'
      ↔ s.canonical = s'.canonical ∧ pageOf p = pageOf p' := by
  unfold findRelations
  rw [Paging.suffix_eq fun x hx => (hp x hx).1, Paging.suffix_eq fun x hx => (hp' x hx).1]
  constructor
  · intro heq
    have htext := text_append_eq heq
    simp only [String.append_assoc] at htext
    obtain ⟨hselector, hbehind⟩ := matching_append_inj h h' htext
    obtain ⟨hpage, -⟩ := Page.readable_text relation (Page.isWord_keys hp) (Page.isWord_keys hp')
      begins_end begins_end ((String.append_right_inj _).mp hbehind)
    exact ⟨hselector, hpage⟩
  · rintro ⟨hselector, hpage⟩
    rw [matching_eq_of_canonical_eq hselector, hpage]

/-- **Statements on relationships are faithful.**  Two creations are equal exactly for equal
endpoints, data and types, where an empty type counts as an absent one.  Two changes, two deletions
and two searches are equal exactly for equal canonical selectors and, as far as they have them,
equal data, equal modes and pages that come down to the same.  Labels, types and names of properties
have to be words, sort names have to be names, and numbers in values have to be integers. -/
theorem relationStatements_eq_iff :
    (∀ {source source' target target' : Endpoint} {relType relType' : Option String}
      {data data' : Properties}, source.IsReadable → source'.IsReadable → target.IsReadable →
      target'.IsReadable → (∀ t ∈ relType, IsWord t) → (∀ t ∈ relType', IsWord t) →
      (connect source relType target data = connect source' relType' target' data'
        ↔ source = source' ∧ typeOf relType = typeOf relType' ∧ target = target' ∧
          data = data')) ∧
    (∀ {s s' : RelationSelector} {data data' : Properties} {mode mode' : WriteMode},
      s.IsReadable → s'.IsReadable → data.IsReadable → data'.IsReadable →
      (setRelations s data mode = setRelations s' data' mode'
        ↔ s.canonical = s'.canonical ∧ data = data' ∧ mode = mode')) ∧
    (∀ {s s' : RelationSelector}, s.IsReadable → s'.IsReadable →
      (deleteRelations s = deleteRelations s' ↔ s.canonical = s'.canonical)) ∧
    (∀ {s s' : RelationSelector} {p p' : Option Paging}, s.IsReadable → s'.IsReadable →
      (∀ x ∈ pageNames p, IsName x) → (∀ x ∈ pageNames p', IsName x) →
      (findRelations s p = findRelations s' p'
        ↔ s.canonical = s'.canonical ∧ pageOf p = pageOf p')) :=
  ⟨connect_eq_iff, setRelations_eq_iff, deleteRelations_eq_iff, findRelations_eq_iff⟩

/-- Relationships from a node found by a string to the node with an identity. -/
def lookalikeFrom (name : String) : RelationSelector :=
  { source := .selected (lookalike name), target := .node ⟨7⟩, relType := some "KNOWS" }

theorem isReadable_lookalikeFrom : (lookalikeFrom "\"\x7d)-[r]->(m) //").IsReadable ∧
    (lookalikeFrom "").IsReadable :=
  ⟨⟨by decide, by decide, by decide, by decide⟩, ⟨by decide, by decide, by decide, by decide⟩⟩

/-- An empty type is none; a string does not end a pattern; a node without conditions is not any
node; the direction between any two nodes is not drawn. -/
theorem relationStatements_eq_iff_lookalikeFrom :
    connect .any (some "") (.node ⟨7⟩) ∅ = connect .any none (.node ⟨7⟩) ∅ ∧
    setRelations (lookalikeFrom "\"\x7d)-[r]->(m) //") ∅ .merge
      ≠ setRelations (lookalikeFrom "") ∅ .merge ∧
    deleteRelations { source := .unconditional } ≠ deleteRelations {} ∧
    findRelations { eitherWay := true } none = findRelations {} (some { limit := some 0 }) := by
  obtain ⟨hconnect, hset, hdelete, hfind⟩ := relationStatements_eq_iff
  have hplain : ∀ {source : Endpoint} {either : Bool}, source.IsReadable →
      RelationSelector.IsReadable { source := source, eitherWay := either } :=
    fun h => ⟨h, trivial, by simp, by simp⟩
  refine ⟨?_, fun h => ?_, fun h => ?_, ?_⟩
  · exact (hconnect (by decide) (by decide) (by decide) (by decide) (by decide) (by decide)).mpr
      ⟨rfl, rfl, rfl, rfl⟩
  · have hselector := ((hset isReadable_lookalikeFrom.1 isReadable_lookalikeFrom.2 (by decide)
      (by decide)).mp h).1
    have hsource := congrArg RelationSelector.source hselector
    simp [RelationSelector.canonical, lookalikeFrom, lookalike, Properties.ofList, Entries.ofList,
      Entries.put] at hsource
  · have hselector := (hdelete (hplain (by decide)) (hplain (by decide))).mp h
    have hsource := congrArg RelationSelector.source hselector
    simp [RelationSelector.canonical, Endpoint.unconditional] at hsource
  · exact (hfind (hplain (by decide)) (hplain (by decide)) (by decide) (by decide)).mpr
      ⟨rfl, by decide⟩

end Cypher

end PropertyGraph
