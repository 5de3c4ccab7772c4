import PropertyGraph.Proofs.Store.Probes

/-!
# Checks for existence go by one criterion

A check for existence is given an identity, a description, or both.  An identity that is not
negative decides alone: the check looks it up and takes no notice of the description.  Any other
identity counts as absent, and then the check searches for one thing that fits the description.
When the description says nothing either, the check is refused and asks nothing of the database.

Both checks have this form, so it is stated once: `Operation.GoesByCriterion` is about a check with
its look-up and its search, and `Plan.check` is the plan that both of them have.

## Main definitions

* `Identity.IsIgnored` — an identity that is absent or negative.
* `NodeSelector.SaysSomething`, `RelationSelector.SaysSomething` — a description to search by.
* `Plan.check` — what both checks do.
* `Operation.AnswersWhether` — a check that answers whether another operation gives something.
* `Operation.GoesByCriterion` — how a check decides.

## Main results

* `Plan.check_of_nonneg`, `Plan.check_of_isIgnored` — the two ways in which a check goes.
* `Operation.check_by_criterion` — **both checks go by one criterion and ignore the other**.
-/

namespace PropertyGraph

/-! ### Criteria -/

/-- An identity that decides nothing: there is none, or it is negative. -/
def Identity.IsIgnored (id : Option Identity) : Prop :=
  ∀ i, id = some i → i.toInt < 0

/-- A property in the filter, or a label. -/
def NodeSelector.SaysSomething (s : NodeSelector) : Prop :=
  (∃ filter, s.filter = some filter ∧ filter.entries ≠ []) ∨ s.labels ≠ []

/-- A type that is not empty, or an endpoint that is not any node. -/
def RelationSelector.SaysSomething (s : RelationSelector) : Prop :=
  (∃ t, s.relType = some t ∧ t ≠ "") ∨ s.source ≠ .any ∨ s.target ≠ .any

theorem NodeSelector.isSelective_iff (s : NodeSelector) :
    s.isSelective = true ↔ s.SaysSomething := by
  unfold isSelective SaysSomething
  rw [Bool.or_eq_true, or_comm]
  refine or_congr ?_ (by simp)
  cases s.filter with
  | none => simp
  | some filter => simp [Properties.isEmpty]

theorem RelationSelector.isSelective_iff (s : RelationSelector) :
    s.isSelective = true ↔ s.SaysSomething := by
  unfold isSelective SaysSomething
  rw [Bool.or_eq_true, Bool.or_eq_true, Endpoint.hasVariable_iff, Endpoint.hasVariable_iff,
    or_assoc]
  refine or_congr ?_ Iff.rfl
  cases s.relType <;> simp

/-! ### The plan of a check -/

namespace Plan

variable {α β γ : Type}

theorem map_map (g : α → β) (f : β → γ) (plan : Plan α) :
    (plan.map g).map f = plan.map (f ∘ g) := by
  cases plan with
  | settled answer => cases answer <;> rfl
  | query statement read =>
    refine congrArg (Plan.query statement) (funext fun rows => ?_)
    show ((read rows).map g).map f = (read rows).map (f ∘ g)
    cases read rows <;> rfl

/-- What a check does: it looks up an identity that is not negative, or else it searches for one
thing when there is something to search by. -/
def check (kind : Check) (lookUp : Identity → Plan (Option α)) (search : Plan (List α))
    (selective : Bool) (id : Option Identity) : Plan Bool :=
  match id.bind Identity.nonnegative? with
  | some i => (lookUp i).map Option.isSome
  | none =>
    if selective then search.map fun found => !found.isEmpty
    else settled (.error (.noCriterion kind))

variable {kind : Check} {lookUp : Identity → Plan (Option α)} {search : Plan (List α)}
  {selective : Bool}

theorem check_of_nonneg {i : Identity} (h : 0 ≤ i.toInt) :
    check kind lookUp search selective (some i) = (lookUp i).map Option.isSome := by
  have hi : (some i).bind Identity.nonnegative? = some i := if_pos h
  rw [check, hi]

theorem check_of_isIgnored {id : Option Identity} (h : Identity.IsIgnored id) :
    check kind lookUp search selective id
      = if selective then search.map fun found => !found.isEmpty
        else settled (.error (.noCriterion kind)) := by
  rw [check, Identity.bind_nonnegative?_eq_none h]

/-- A search for one thing always has a list to give. -/
theorem paged_probePage (plan : Plan α) : paged (some probePage) plan = plan.map some :=
  paged_of_limit_ne_zero (by decide) plan

theorem findNodes_probePage (nodes : NodeSelector) :
    findNodes ⟨nodes, some probePage⟩
      = (query (Cypher.findNodes nodes (some probePage))
          (Reader.node.every Cypher.node)).map some :=
  paged_probePage _

theorem findRelations_probePage (s : RelationSelector) :
    findRelations ⟨s, some probePage⟩
      = (query (Cypher.findRelations s (some probePage))
          (Reader.relation.every Cypher.relation)).map some :=
  paged_probePage _

theorem nodeExists_eq_check (id : Option Identity) (nodes : NodeSelector) :
    nodeExists ⟨id, nodes⟩ = check .node lookUpNode
      (query (Cypher.findNodes nodes (some probePage)) (Reader.node.every Cypher.node))
      nodes.isSelective id := by
  unfold nodeExists
  simp only [findNodes_probePage, map_map]
  rfl

theorem relationExists_eq_check (id : Option Identity) (s : RelationSelector) :
    Plan.relationExists ⟨id, s.source, s.relType, s.target, s.eitherWay⟩
      = check .relation lookUpRelation
          (query (Cypher.findRelations { s with filter := none } (some probePage))
            (Reader.relation.every Cypher.relation))
          s.isSelective id := by
  unfold Plan.relationExists
  simp only [findRelations_probePage, map_map]
  rfl

end Plan

/-! ### Checks -/

namespace Operation

/-- A check that stands for another operation: it does the same to the database, passes failures on
as they are, and answers whether there is something in what the other one gives. -/
def AnswersWhether {β : Type} (settings : Settings) (reply : Reply) (check other : Operation)
    (give : β → Answer) (there : β → Bool) : Prop :=
  (check.alone settings reply).2 = (other.alone settings reply).2 ∧
  ∃ outcome : Except Failure β,
    (other.alone settings reply).1 = outcome.map give ∧
    (check.alone settings reply).1 = outcome.map fun x => .truth (there x)

/-- How a check for an identity or a description decides: the identity alone when it is not
negative, or else the description alone when it says something. -/
structure GoesByCriterion {δ α : Type} (settings : Settings) (reply : Reply) (kind : Check)
    (check : Option Identity → δ → Operation) (lookUp : Identity → Operation)
    (giveOne : Option α → Answer) (search : δ → Operation) (giveAll : List α → Answer)
    (SaysSomething : δ → Prop) : Prop where
  /-- An identity that is not negative is looked up. -/
  of_nonneg : ∀ i d, 0 ≤ i.toInt →
    AnswersWhether settings reply (check (some i) d) (lookUp i) giveOne Option.isSome
  /-- The description does not matter then. -/
  ignores_description : ∀ i d d', 0 ≤ i.toInt →
    (check (some i) d).alone settings reply = (check (some i) d').alone settings reply
  /-- All other identities count as absent. -/
  ignores_identity : ∀ id id' d, Identity.IsIgnored id → Identity.IsIgnored id' →
    (check id d).alone settings reply = (check id' d).alone settings reply
  /-- Without an identity, there is a search for what is described. -/
  of_saysSomething : ∀ id d, Identity.IsIgnored id → SaysSomething d →
    AnswersWhether settings reply (check id d) (search d) giveAll fun found => !found.isEmpty
  /-- Without an identity and a description, the check is refused and runs nothing. -/
  refused : ∀ id d, Identity.IsIgnored id → ¬SaysSomething d →
    (check id d).alone settings reply = (.error (.noCriterion kind), .fresh settings [reply])

variable {settings : Settings} {reply : Reply}

/-- Operations with equal plans cannot be told apart. -/
theorem alone_congr {op other : Operation} (h : op.plan settings = other.plan settings) :
    op.alone settings reply = other.alone settings reply := by
  rw [alone_eq, alone_eq, h]

/-- A check whose plan is that of the other operation up to the answer. -/
theorem answersWhether_of_plan {β : Type} {check other : Operation} {plan : Plan β}
    {give : β → Answer} {there : β → Bool}
    (hcheck : check.plan settings = (plan.map there).map .truth)
    (hother : other.plan settings = plan.map give) :
    AnswersWhether settings reply check other give there := by
  rw [Plan.map_map] at hcheck
  refine ⟨?_, plan.answer reply, ?_, ?_⟩
  · rw [alone_eq, alone_eq, hcheck, hother, Plan.statement?_map, Plan.statement?_map]
  · rw [answer_alone, hother, Plan.answer_map]
  · rw [answer_alone, hcheck, Plan.answer_map]
    rfl

/-- **A check with the common plan goes by its criterion.** -/
theorem goesByCriterion_of_plan {δ α : Type} {kind : Check}
    {check : Option Identity → δ → Operation} {lookUp : Identity → Operation}
    {giveOne : Option α → Answer} {search : δ → Operation} {giveAll : List α → Answer}
    {SaysSomething : δ → Prop} {lookUpPlan : Identity → Plan (Option α)}
    {searchPlan : δ → Plan (List α)} {selective : δ → Bool}
    (hcheck : ∀ id d, (check id d).plan settings
      = (Plan.check kind lookUpPlan (searchPlan d) (selective d) id).map .truth)
    (hlookUp : ∀ i, (lookUp i).plan settings = (lookUpPlan i).map giveOne)
    (hsearch : ∀ d, (search d).plan settings = (searchPlan d).map giveAll)
    (hselective : ∀ d, selective d = true ↔ SaysSomething d) :
    GoesByCriterion settings reply kind check lookUp giveOne search giveAll SaysSomething where
  of_nonneg i d h := by
    refine answersWhether_of_plan ?_ (hlookUp i)
    rw [hcheck, Plan.check_of_nonneg h]
  ignores_description i d d' h := by
    refine alone_congr ?_
    rw [hcheck, hcheck, Plan.check_of_nonneg h, Plan.check_of_nonneg h]
  ignores_identity id id' d h h' := by
    refine alone_congr ?_
    rw [hcheck, hcheck, Plan.check_of_isIgnored h, Plan.check_of_isIgnored h']
  of_saysSomething id d h hsays := by
    refine answersWhether_of_plan ?_ (hsearch d)
    rw [hcheck, Plan.check_of_isIgnored h, if_pos ((hselective d).mpr hsays)]
  refused id d h hsays := by
    rw [alone_eq, hcheck, Plan.check_of_isIgnored h, if_neg (mt (hselective d).mp hsays)]
    rfl

/-- **Both checks go by one criterion and ignore the other.**  With an identity that is not
negative, a check runs the statement of the look-up and answers whether that gives something,
whatever the description is.  Without one it does not matter whether the identity is absent or
negative: a check with something to search by runs the search for one thing and answers whether it
gives any, and a check without is refused before anything is run.  The failures of the look-up and
of the search are the answer as they are. -/
theorem check_by_criterion (settings : Settings) (reply : Reply) :
    GoesByCriterion settings reply .node
      (fun id nodes => nodeExists ⟨id, nodes⟩)
      lookUpNode .node
      (fun nodes => findNodes ⟨nodes, some (.first 1)⟩) (fun found => .nodes (some found))
      NodeSelector.SaysSomething ∧
    GoesByCriterion settings reply .relation
      (fun id s => relationExists ⟨id, s.source, s.relType, s.target, s.eitherWay⟩)
      lookUpRelation .relation
      (fun s => findRelations
        ⟨⟨s.source, s.relType, s.target, s.eitherWay, none⟩, some (.first 1)⟩)
      (fun found => .relations (some found))
      RelationSelector.SaysSomething := by
  constructor
  · refine goesByCriterion_of_plan
      (fun id nodes => congrArg (Plan.map Answer.truth) (Plan.nodeExists_eq_check id nodes))
      (fun _ => rfl) (fun nodes => ?_) NodeSelector.isSelective_iff
    show (Plan.findNodes ⟨nodes, some Plan.probePage⟩).map Answer.nodes = _
    rw [Plan.findNodes_probePage, Plan.map_map]
    rfl
  · refine goesByCriterion_of_plan
      (fun id s => congrArg (Plan.map Answer.truth) (Plan.relationExists_eq_check id s))
      (fun _ => rfl) (fun s => ?_) RelationSelector.isSelective_iff
    show (Plan.findRelations ⟨{ s with filter := none }, some Plan.probePage⟩).map
      Answer.relations = _
    rw [Plan.findRelations_probePage, Plan.map_map]
    rfl

/-- A negative identity and an empty filter count for nothing: with a label next to them the check
is a search, with nothing else it is refused, although the database would have failed. -/
theorem check_by_criterion_negative :
    Identity.IsIgnored (some ⟨-1⟩) ∧
    AnswersWhether {} ⟨[], some "timeout"⟩
      (nodeExists ⟨some ⟨-1⟩, { labels := ["Person"], filter := some ∅ }⟩)
      (findNodes ⟨{ labels := ["Person"], filter := some ∅ }, some (.first 1)⟩)
      (fun found => .nodes (some found)) (fun found => !found.isEmpty) ∧
    (nodeExists ⟨some ⟨-1⟩, { filter := some ∅ }⟩).alone {} ⟨[], some "timeout"⟩
      = (.error (.noCriterion .node), .fresh {} [⟨[], some "timeout"⟩]) := by
  have hid : Identity.IsIgnored (some ⟨-1⟩) := by
    intro i hi
    cases hi
    decide
  have hlabel : NodeSelector.SaysSomething { labels := ["Person"], filter := some ∅ } :=
    .inr (by simp)
  have hnothing : ¬NodeSelector.SaysSomething { filter := some ∅ } := by
    rintro (⟨filter, hfilter, hne⟩ | hlabels)
    · cases hfilter
      exact hne rfl
    · exact hlabels rfl
  obtain ⟨hnodes, -⟩ := check_by_criterion {} ⟨[], some "timeout"⟩
  exact ⟨hid, hnodes.of_saysSomething _ _ hid hlabel, hnodes.refused _ _ hid hnothing⟩

end Operation

end PropertyGraph
