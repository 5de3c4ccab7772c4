import PropertyGraph.Proofs.Store.Independence

/-!
# The column that is returned is the one that is read

A statement ends by giving one column back, and its plan looks at this column of the rows and at no
other.  Statement and reader name the column independently of each other, and an absent column reads
like an empty answer, so that a difference between the two would never show as a failure.

## Main definitions

* `Returns` — a text that ends by giving a column back.
* `Plan.ReadsColumn` — a plan whose statement returns a column and whose reader looks at it only.
* `Operation.column?`, `Operation.paging` — the column of an operation, and the page that it asks
  for.

## Main results

* `Operation.readsColumn_plan` — every operation but a raw query reads what its statement returns.
* `Operation.column_returned_and_read` — the same for answers, with one model for each row.
-/

namespace PropertyGraph

open Cypher

/-- A text that ends by giving a column back, before a rest: as it is, each value once, or as the
number of things that were deleted. -/
inductive Returns (column rest : String) : String → Prop
  /-- The column as it is. -/
  | all (lead : String) : Returns column rest (lead ++ (" RETURN " ++ column) ++ rest)
  /-- Each value of the column once. -/
  | distinct (lead : String) : Returns column rest (lead ++ (" RETURN DISTINCT " ++ column) ++ rest)
  /-- The number of things that the deleted variable stood for. -/
  | deleted (lead var : String) : Returns column rest
      (lead ++ (" DELETE " ++ var ++ " RETURN COUNT(" ++ var ++ ") as " ++ column) ++ rest)

namespace Returns

theorem returning (lead column : String) : Returns column "" (lead ++ Cypher.returning column) := by
  rw [← String.append_empty (s := lead ++ Cypher.returning column)]
  exact .all lead

theorem returningDistinct (lead column : String) :
    Returns column "" (lead ++ Cypher.returningDistinct column) := by
  rw [← String.append_empty (s := lead ++ Cypher.returningDistinct column)]
  exact .distinct lead

/-- A deletion names its number as the plans that read it do. -/
theorem deleting (lead var : String) :
    Returns Plan.countColumn "" (lead ++ Cypher.deleting var) := by
  have hname : Plan.countColumn = tally := by decide
  rw [hname, ← String.append_empty (s := lead ++ Cypher.deleting var)]
  exact .deleted lead var

end Returns

/-! ### Plans -/

namespace Plan

variable {α β : Type}

/-- A plan whose statement, if it runs one, returns a column before the clauses of a page, and whose
answer depends on nothing but this column of the rows. -/
structure ReadsColumn (column : String) (paging : Option Paging) (plan : Plan α) : Prop where
  /-- The text of the statement ends with the column and the page. -/
  returns : ∀ statement, plan.statement? = some statement →
    Returns column (Paging.suffix paging column) statement.text
  /-- Rows that hold the same in the column are answered alike. -/
  answer_congr : ∀ rows rows', Row.column column rows = Row.column column rows' →
    plan.answer ⟨rows, none⟩ = plan.answer ⟨rows', none⟩

namespace ReadsColumn

variable {column : String} {paging : Option Paging} {plan : Plan α}

theorem settled (answer : Except Failure α) : (Plan.settled answer).ReadsColumn column paging where
  returns := by
    intro statement h
    cases h
  answer_congr := by
    intro rows rows' _
    rfl

theorem query {statement : Statement} {read : List Row → Except Failure α}
    (htext : Returns column (Paging.suffix paging column) statement.text)
    (hread : ∀ {rows rows' : List Row}, Row.column column rows = Row.column column rows' →
      read rows = read rows') : (Plan.query statement read).ReadsColumn column paging where
  returns := by
    intro statement' h
    cases h
    exact htext
  answer_congr := by
    intro rows rows' h
    exact hread h

theorem map (h : plan.ReadsColumn column paging) (f : α → β) :
    (plan.map f).ReadsColumn column paging where
  returns := by
    intro statement hstatement
    rw [statement?_map] at hstatement
    exact h.returns statement hstatement
  answer_congr := by
    intro rows rows' hrows
    rw [answer_map, answer_map, h.answer_congr rows rows' hrows]

theorem paged (h : plan.ReadsColumn column paging) (page : Option Paging) :
    (Plan.paged page plan).ReadsColumn column paging := by
  unfold Plan.paged
  split
  · exact settled _
  · exact h.map some

end ReadsColumn

/-- A page that asks for something is cut from the list of the plan. -/
theorem paged_of_statement {paging : Option Paging} {plan : Plan α} {statement : Statement}
    (h : (paged paging plan).statement? = some statement) : paged paging plan = plan.map some := by
  unfold paged at h ⊢
  split
  · next hnothing =>
    rw [if_pos hnothing] at h
    cases h
  · rfl

end Plan

/-! ### Operations -/

namespace Operation

/-- The column that an operation reads.  A raw query has none of its own. -/
def column? : Operation → Option String
  | createNode _ | setNodes _ _ | setNode _ _ | findNodes _ | lookUpNode _ | nodeExists _
  | findSources _ | findNeighbours _ => some node
  | findTargets _ => some otherNode
  | connect _ | setRelations _ _ | setRelation _ _ | findRelations _ | lookUpRelation _
  | relationExists _ => some relation
  | deleteNodes _ | deleteNode _ | deleteRelations _ | deleteRelation _ => some Plan.countColumn
  | runQuery _ => none

/-- The page of a check for existence: the first item, unless an identity that is not negative
decides. -/
def probePaging (id : Option Identity) : Option Paging :=
  if id.any fun id => 0 ≤ id.toInt then none else some (.first 1)

/-- The page that an operation asks for. -/
def paging : Operation → Option Paging
  | nodeExists r => probePaging r.id
  | relationExists r => probePaging r.id
  | op => op.page?

theorem probePaging_eq (id : Option Identity) :
    probePaging id = (id.bind Identity.nonnegative?).elim (some (.first 1)) fun _ => none := by
  cases id with
  | none => rfl
  | some id =>
    show (if decide (0 ≤ id.toInt) then none else some (Paging.first 1))
      = (if 0 ≤ id.toInt then some id else none).elim (some (Paging.first 1)) fun _ => none
    by_cases h : 0 ≤ id.toInt <;> simp [h]

theorem column?_mem {op : Operation} {column : String} (h : op.column? = some column) :
    column ∈ ["n", "m", "r", "count"] := by
  cases op <;> cases h <;> decide

theorem readsColumn_nodeExists (r : NodeProbe) :
    (Plan.nodeExists r).ReadsColumn node (probePaging r.id) := by
  unfold Plan.nodeExists
  rw [probePaging_eq]
  cases r.id.bind Identity.nonnegative? with
  | some id => exact (Plan.ReadsColumn.query (.returning _ _) Reader.first_congr).map _
  | none =>
    dsimp only [Option.elim]
    split
    · exact ((Plan.ReadsColumn.query (.all _) Reader.every_congr).paged _).map _
    · exact .settled _

theorem readsColumn_relationExists (r : RelationProbe) :
    (Plan.relationExists r).ReadsColumn relation (probePaging r.id) := by
  unfold Plan.relationExists
  rw [probePaging_eq]
  cases r.id.bind Identity.nonnegative? with
  | some id => exact (Plan.ReadsColumn.query (.returningDistinct _ _) Reader.first_congr).map _
  | none =>
    dsimp only [Option.elim]
    split
    · exact ((Plan.ReadsColumn.query (.distinct _) Reader.every_congr).paged _).map _
    · exact .settled _

/-- **What the statement returns is what the plan reads.** -/
theorem readsColumn_plan (settings : Settings) {op : Operation} {column : String}
    (h : op.column? = some column) : (op.plan settings).ReadsColumn column op.paging := by
  cases op with
  | createNode _ | setNode _ _ | lookUpNode _ | setRelation _ _ =>
    cases h
    exact (Plan.ReadsColumn.query (.returning _ _) Reader.first_congr).map _
  | lookUpRelation _ =>
    cases h
    exact (Plan.ReadsColumn.query (.returningDistinct _ _) Reader.first_congr).map _
  | deleteNodes _ | deleteNode _ | deleteRelations _ | deleteRelation _ =>
    cases h
    exact (Plan.ReadsColumn.query (.deleting _ _) Reader.total_congr).map _
  | setNodes mode r =>
    -- the nodes are counted after they are read
    cases h
    refine (Plan.ReadsColumn.query (.returning _ _) fun hrows => ?_).map _
    rw [Reader.every_congr hrows]
  | connect _ | setRelations _ _ =>
    cases h
    exact (Plan.ReadsColumn.query (.returning _ _) Reader.every_congr).map _
  | findNodes _ =>
    cases h
    exact ((Plan.ReadsColumn.query (.all _) Reader.every_congr).paged _).map _
  | findRelations _ | findSources _ | findTargets _ | findNeighbours _ =>
    cases h
    exact ((Plan.ReadsColumn.query (.distinct _) Reader.every_congr).paged _).map _
  | nodeExists r =>
    cases h
    exact (readsColumn_nodeExists r).map _
  | relationExists r =>
    cases h
    exact (readsColumn_relationExists r).map _
  | runQuery _ => cases h

/-! ### One model for each row -/

/-- The operations that answer with nodes, as many as there are. -/
def listsNodes : Operation → Bool
  | setNodes _ _ | findNodes _ | findSources _ | findTargets _ | findNeighbours _ => true
  | _ => false

/-- The operations that answer with relationships, as many as there are. -/
def listsRelations : Operation → Bool
  | connect _ | setRelations _ _ | findRelations _ => true
  | _ => false

end Operation

namespace Answer

/-- The nodes of an answer that has as many as there are. -/
def nodeList? : Answer → Option (List Node)
  | nodes found => found
  | changedNodes found => some found.toList
  | _ => none

/-- The relationships of an answer that has as many as there are. -/
def relationList? : Answer → Option (List Relation)
  | relations found => found
  | _ => none

end Answer

namespace Operation

variable {settings : Settings} {op : Operation} {column : String} {statement : Statement}
  {rows : List Row}

theorem nodeList?_answer (hlists : op.listsNodes = true) (hcolumn : op.column? = some column)
    (hstatement : (op.plan settings).statement? = some statement) {nodes : List Node}
    (hrows : Row.column column rows = nodes.map fun n => some (.node n)) :
    ∃ answer, (op.plan settings).answer ⟨rows, none⟩ = .ok answer ∧
      answer.nodeList? = some nodes := by
  have hread : Reader.node.every column rows = .ok nodes :=
    Reader.every_eq_ok (fun _ => rfl) (fun _ => rfl) hrows
  -- a search that runs a statement is not cut to a page without items
  have hsearch {st : Statement} {paging : Option Paging}
      (h : ((Plan.paged paging (.query st (Reader.node.every column))).map Answer.nodes).statement?
        = some statement) :
      ((Plan.paged paging (.query st (Reader.node.every column))).map Answer.nodes).answer
        ⟨rows, none⟩ = .ok (.nodes (some nodes)) := by
    rw [Plan.statement?_map] at h
    rw [Plan.paged_of_statement h, Plan.answer_map, Plan.answer_map]
    show ((Reader.node.every column rows).map some).map Answer.nodes = _
    rw [hread]
    rfl
  cases op with
  | setNodes mode r =>
    cases hcolumn
    refine ⟨.changedNodes (.ofList nodes), ?_, by simp [Answer.nodeList?]⟩
    show ((Reader.node.every node rows).map ByCount.ofList).map Answer.changedNodes = _
    rw [hread]
    rfl
  | findNodes _ | findSources _ | findTargets _ | findNeighbours _ =>
    cases hcolumn
    exact ⟨_, hsearch hstatement, rfl⟩
  | _ => cases hlists

theorem relationList?_answer (hlists : op.listsRelations = true)
    (hcolumn : op.column? = some column)
    (hstatement : (op.plan settings).statement? = some statement) {relations : List Relation}
    (hrows : Row.column column rows = relations.map fun r => some (.relation r)) :
    ∃ answer, (op.plan settings).answer ⟨rows, none⟩ = .ok answer ∧
      answer.relationList? = some relations := by
  have hread : Reader.relation.every column rows = .ok relations :=
    Reader.every_eq_ok (fun _ => rfl) (fun _ => rfl) hrows
  refine ⟨.relations (some relations), ?_, rfl⟩
  cases op with
  | connect _ | setRelations _ _ =>
    cases hcolumn
    show (Reader.relation.every relation rows).map (fun found => Answer.relations (some found)) = _
    rw [hread]
    rfl
  | findRelations r =>
    cases hcolumn
    replace hstatement := (Plan.statement?_map _ _).symm.trans hstatement
    show ((Plan.findRelations r).map Answer.relations).answer ⟨rows, none⟩ = _
    rw [Plan.findRelations, Plan.paged_of_statement hstatement, Plan.answer_map, Plan.answer_map]
    show ((Reader.relation.every relation rows).map some).map Answer.relations = _
    rw [hread]
    rfl
  | _ => cases hlists

/-- **The column that is returned is the one that is read.**  For every operation but a raw query,
and every statement that it runs, the column that the operation reads is the one that the text gives
back at its end, before nothing but the clauses of the page that is asked for, on this same column.
Replies whose rows hold the same in this column are answered alike.  When all rows hold a node in
it, then an operation that lists nodes answers with these nodes, one for each row and in order; and
so for relationships. -/
theorem column_returned_and_read (settings : Settings) (op : Operation)
    (hop : ∀ r, op ≠ .runQuery r) (reply : Reply) (statement : Statement)
    (h : statement ∈ (op.alone settings reply).2.statements) :
    ∃ column ∈ ["n", "m", "r", "count"], op.column? = some column ∧
      Returns column (Paging.suffix op.paging column) statement.text ∧
      (∀ rows rows', Row.column column rows = Row.column column rows' →
        (op.alone settings ⟨rows, none⟩).1 = (op.alone settings ⟨rows', none⟩).1) ∧
      (op.listsNodes = true → ∀ rows : List Row,
        (∀ row ∈ rows, ∃ n, row.get? column = some (.node n)) →
        ∃ nodes answer, (op.alone settings ⟨rows, none⟩).1 = .ok answer ∧
          answer.nodeList? = some nodes ∧
          Row.column column rows = nodes.map fun n => some (.node n)) ∧
      (op.listsRelations = true → ∀ rows : List Row,
        (∀ row ∈ rows, ∃ r, row.get? column = some (.relation r)) →
        ∃ relations answer, (op.alone settings ⟨rows, none⟩).1 = .ok answer ∧
          answer.relationList? = some relations ∧
          Row.column column rows = relations.map fun r => some (.relation r)) := by
  obtain ⟨column, hcolumn⟩ : ∃ column, op.column? = some column := by
    cases op with
    | runQuery r => exact absurd rfl (hop r)
    | _ => exact ⟨_, rfl⟩
  have hreads := readsColumn_plan settings hcolumn
  have hstatement : (op.plan settings).statement? = some statement := by
    rw [statements_alone, Option.mem_toList] at h
    exact h
  simp only [answer_alone]
  refine ⟨column, column?_mem hcolumn, hcolumn, hreads.returns statement hstatement,
    hreads.answer_congr, fun hlists rows hrows => ?_, fun hlists rows hrows => ?_⟩
  · obtain ⟨nodes, hnodes⟩ := Row.column_eq_map hrows
    obtain ⟨answer, hanswer, hlist⟩ := nodeList?_answer hlists hcolumn hstatement hnodes
    exact ⟨nodes, answer, hanswer, hlist, hnodes⟩
  · obtain ⟨relations, hrelations⟩ := Row.column_eq_map hrows
    obtain ⟨answer, hanswer, hlist⟩ := relationList?_answer hlists hcolumn hstatement hrelations
    exact ⟨relations, answer, hanswer, hlist, hrelations⟩

/-- The first five nodes, by name, that relationships from one node lead to. -/
def fiveTargets : EndSearch :=
  { known := .node ⟨3⟩, paging := some { order := some (.bare "name"), limit := some 5 } }

/-- A search for the targets of relationships is about the second node throughout. -/
theorem column_returned_and_read_fiveTargets :
    (∀ r, findTargets fiveTargets ≠ .runQuery r) ∧
    ∃ statement ∈ ((findTargets fiveTargets).alone {} {}).2.statements,
      statement.text = "START n=node(3) MATCH (n)-[r]->(m)" ++
        " RETURN DISTINCT m ORDER BY m.name LIMIT 5" ∧
      Returns "m" " ORDER BY m.name LIMIT 5" statement.text ∧
      (∀ rows rows', Row.column "m" rows = Row.column "m" rows' →
        ((findTargets fiveTargets).alone {} ⟨rows, none⟩).1
          = ((findTargets fiveTargets).alone {} ⟨rows', none⟩).1) ∧
      ∀ rows : List Row, (∀ row ∈ rows, ∃ n, row.get? "m" = some (.node n)) →
        ∃ nodes answer, ((findTargets fiveTargets).alone {} ⟨rows, none⟩).1 = .ok answer ∧
          answer.nodeList? = some nodes ∧
          Row.column "m" rows = nodes.map fun n => some (.node n) := by
  have hop : ∀ r, findTargets fiveTargets ≠ .runQuery r := by
    intro r h
    cases h
  have hmem : Cypher.findTargets fiveTargets.known none none fiveTargets.paging
      ∈ ((findTargets fiveTargets).alone {} {}).2.statements := List.mem_singleton.mpr rfl
  obtain ⟨column, -, hcolumn, hreturns, hcongr, hnodes, -⟩ :=
    column_returned_and_read {} (findTargets fiveTargets) hop {} _ hmem
  obtain rfl : "m" = column := Option.some.inj hcolumn
  have hsuffix : Paging.suffix (findTargets fiveTargets).paging "m"
      = " ORDER BY m.name LIMIT 5" := by decide +kernel
  rw [hsuffix] at hreturns
  exact ⟨hop, _, hmem, by decide +kernel, hreturns, hcongr, hnodes rfl⟩

end Operation

end PropertyGraph
