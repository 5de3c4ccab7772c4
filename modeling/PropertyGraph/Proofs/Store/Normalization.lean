import PropertyGraph.Proofs.Store.Reading
import PropertyGraph.Proofs.Store.Sessions

/-!
# Reading many rows loses, invents and reorders nothing

What a column holds in all rows where it holds something is given back one for one and in order,
when it is all of the kind that is expected; otherwise the first value of another kind is the
failure.  It makes no difference whether the values come from rows or from a list.  A change of
nodes tells its callers whether there were none, one or several, and gives them all.

## Main definitions

* `Row.present` — what rows hold in a column, without what is absent or nothing.
* `Reader.Takes` — a reader that takes the things of one kind, as they are.
* `Reader.Faithful` — an outcome that gives back all of some values, or says which was wrong.
* `ByCount.Tells` — a list told apart by its length.
* `Node.shownAs`, `Relation.shownAs` — the names of their parts among values and for callers.

## Main results

* `Reader.each_eq_error_iff` — the failure is the first value of another kind.
* `Reader.faithful_every` — **all rows are read faithfully.**
* `Store.perform_setNodes` — the answer to a change of nodes.
* `many_rows_read_faithfully` — all of this for nodes, relationships, lists and changes.
-/

namespace PropertyGraph

/-! ### What rows hold -/

/-- What rows hold in a column, one after another: the first value under that name in each row,
without what is absent and what is nothing. -/
def Row.present (name : String) (rows : List Row) : List Value :=
  ((Row.column name rows).filterMap id).filter fun v => !v.isNull

namespace Reader

theorem values_eq_present (column : String) (rows : List Row) :
    values column rows = Row.present column rows := by
  rw [values_eq, Row.present, List.filter_filterMap]
  rfl

variable {α : Type} {e : Reader α} {wrap : α → Value} {column : String} {values : List Value}

/-! ### Values one after another -/

/-- A reader that takes the things of one kind out of their values, as they are. -/
def Takes (e : Reader α) (wrap : α → Value) : Prop :=
  ∀ v x, e.take? v = some x ↔ v = wrap x

theorem takes_node : node.Takes .node := by
  intro v n
  cases v <;> simp [node, Value.node?]

theorem takes_relation : relation.Takes .relation := by
  intro v r
  cases v <;> simp [relation, Value.relation?]

theorem take?_eq_none_iff (h : e.Takes wrap) {v : Value} :
    e.take? v = none ↔ ∀ x, v ≠ wrap x := by
  constructor
  · intro hnone x hx
    rw [(h v x).mpr hx] at hnone
    cases hnone
  · intro hne
    cases htake : e.take? v with
    | none => rfl
    | some x => exact absurd ((h v x).mp htake) (hne x)

theorem each_cons (e : Reader α) (column : String) (v : Value) (values : List Value) :
    e.each column (v :: values)
      = (e.one column v).bind fun x => (e.each column values).map (x :: ·) := by
  unfold each
  rw [List.mapM_cons]
  cases e.one column v with
  | error f => rfl
  | ok x => cases values.mapM (e.one column) <;> rfl

/-- **The failure is the first value of another kind.** -/
theorem each_eq_error_iff {f : Failure} :
    e.each column values = .error f ↔
      ∃ before v after, values = before ++ v :: after ∧ (∀ u ∈ before, e.take? u ≠ none) ∧
        e.take? v = none ∧ f = .wrongKind column e.kind v.kind := by
  induction values with
  | nil =>
    constructor
    · intro h
      cases h
    · rintro ⟨before, v, after, hsplit, -⟩
      cases before <;> cases hsplit
  | cons w values ih =>
    rw [each_cons]
    cases hw : e.take? w with
    | none =>
      have hone : e.one column w = .error (.wrongKind column e.kind w.kind) := by rw [one, hw]
      rw [hone]
      constructor
      · intro h
        cases h
        exact ⟨[], w, values, rfl, by simp, hw, rfl⟩
      · rintro ⟨before, v, after, hsplit, hbefore, -, rfl⟩
        cases before with
        | nil =>
          cases hsplit
          rfl
        | cons u before =>
          obtain ⟨rfl, -⟩ := List.cons.inj hsplit
          exact absurd hw (hbefore w (List.mem_cons_self ..))
    | some x =>
      have hone : e.one column w = .ok x := by rw [one, hw]
      have hrest : ((Except.ok x).bind fun x => (e.each column values).map (x :: ·))
          = .error f ↔ e.each column values = .error f := by
        show (e.each column values).map (x :: ·) = .error f ↔ _
        cases e.each column values <;> simp [Except.map]
      rw [hone, hrest, ih]
      constructor
      · rintro ⟨before, v, after, rfl, hbefore, hv, hf⟩
        refine ⟨w :: before, v, after, rfl, ?_, hv, hf⟩
        intro u hu
        rcases List.mem_cons.mp hu with rfl | hu
        · rw [hw]
          exact Option.some_ne_none x
        · exact hbefore u hu
      · rintro ⟨before, v, after, hsplit, hbefore, hv, hf⟩
        cases before with
        | nil =>
          obtain ⟨rfl, -⟩ := List.cons.inj hsplit
          rw [hw] at hv
          cases hv
        | cons u before =>
          obtain ⟨rfl, rfl⟩ := List.cons.inj hsplit
          exact ⟨before, v, after, rfl, fun u hu => hbefore u (List.mem_cons_of_mem w hu), hv, hf⟩

/-! ### Faithful outcomes -/

/-- An outcome of reading values that gives back all of them, as they are and in order, or says
which one is the first that cannot be given back. -/
structure Faithful (e : Reader α) (wrap : α → Value) (column : String) (values : List Value)
    (outcome : Except Failure (List α)) : Prop where
  /-- What is given back is all that there was. -/
  all : ∀ xs, outcome = .ok xs ↔ values = xs.map wrap
  /-- It is given back when all values are of the kind that is expected. -/
  success : (∃ xs, outcome = .ok xs) ↔ ∀ v ∈ values, ∃ x, v = wrap x
  /-- Otherwise the first one that is not is the failure. -/
  failure : ∀ f, outcome = .error f ↔
    ∃ before v after, values = before ++ v :: after ∧ (∀ u ∈ before, ∃ x, u = wrap x) ∧
      (∀ x, v ≠ wrap x) ∧ f = .wrongKind column e.kind v.kind

theorem each_eq_ok_iff_map (h : e.Takes wrap) {xs : List α} :
    e.each column values = .ok xs ↔ values = xs.map wrap := by
  rw [each_eq_ok_iff]
  induction values generalizing xs with
  | nil => cases xs <;> simp
  | cons v values ih =>
    cases xs with
    | nil => simp
    | cons x xs =>
      rw [List.map_cons, List.map_cons, List.map_cons, List.cons.injEq, List.cons.injEq, h v x, ih]

/-- **Values are read faithfully**, wherever they come from. -/
theorem faithful_each (h : e.Takes wrap) (column : String) (values : List Value) :
    e.Faithful wrap column values (e.each column values) where
  all := fun xs => each_eq_ok_iff_map h
  success := by
    constructor
    · rintro ⟨xs, hxs⟩ v hv
      rw [(each_eq_ok_iff_map h).mp hxs] at hv
      obtain ⟨x, -, rfl⟩ := List.mem_map.mp hv
      exact ⟨x, rfl⟩
    · intro hall
      cases hread : e.each column values with
      | ok xs => exact ⟨xs, rfl⟩
      | error f =>
        obtain ⟨before, v, after, rfl, -, hnone, -⟩ := each_eq_error_iff.mp hread
        obtain ⟨x, hx⟩ := hall v (List.mem_append_right before (List.mem_cons_self ..))
        exact absurd hx ((take?_eq_none_iff h).mp hnone x)
  failure := by
    intro f
    have hsome : ∀ u, e.take? u ≠ none ↔ ∃ x, u = wrap x := by
      intro u
      rw [Ne, take?_eq_none_iff h]
      simp
    rw [each_eq_error_iff]
    simp only [hsome, take?_eq_none_iff h]

/-- **All rows are read faithfully.** -/
theorem faithful_every (h : e.Takes wrap) (column : String) (rows : List Row) :
    e.Faithful wrap column (Row.present column rows) (e.every column rows) := by
  rw [every, values_eq_present]
  exact faithful_each h column _

/-- What rows hold in a column is read alike from the rows and from a list. -/
theorem ofList_present (e : Reader α) (column : String) (rows : List Row) :
    e.ofList column (.list (Row.present column rows)) = (e.every column rows).map .items := by
  rw [every, values_eq_present]
  rfl

/-- What is no list is left as it is. -/
theorem ofList_other (e : Reader α) (column : String) {v : Value} (h : ∀ items, v ≠ .list items) :
    e.ofList column v = .ok (.other v) := by
  cases v with
  | list items => exact absurd rfl (h items)
  | _ => rfl

end Reader

/-! ### Changes of nodes -/

/-- A list told apart by its length, without losing anything. -/
structure ByCount.Tells {α : Type} (c : ByCount α) (items : List α) : Prop where
  /-- All items are there. -/
  toList : c.toList = items
  /-- There are none. -/
  nothing : c = .nothing ↔ items.length = 0
  /-- There is one. -/
  one : (∃ x, c = .one x) ↔ items.length = 1
  /-- There are at least two. -/
  several : (∃ xs, c = .several xs) ↔ 2 ≤ items.length

theorem ByCount.tells_ofList {α : Type} (items : List α) : (ofList items).Tells items := by
  match items with
  | [] => exact ⟨rfl, by simp [ofList], by simp [ofList], by simp [ofList]⟩
  | [x] => exact ⟨rfl, by simp [ofList], by simp [ofList], by simp [ofList]⟩
  | x :: y :: rest => exact ⟨rfl, by simp [ofList], by simp [ofList], by simp [ofList]⟩

/-- **The answer to a change of nodes**, when the reply is no failure. -/
theorem Store.perform_setNodes (s : Store) (mode : WriteMode) (request : NodeChange)
    {rows : List Row} (h : s.replies.headD {} = ⟨rows, none⟩) :
    (s.perform (.setNodes mode request)).1
      = (Reader.node.every Cypher.node rows).map fun nodes => .changedNodes (.ofList nodes) := by
  have hopen : s.openSession.replies = s.replies := by
    unfold openSession
    split <;> rfl
  show ((s.openSession.replies.headD {}).outcome.bind fun rows =>
    ((Reader.node.every Cypher.node rows).map ByCount.ofList).map Answer.changedNodes) = _
  rw [hopen, h]
  show ((Reader.node.every Cypher.node rows).map ByCount.ofList).map Answer.changedNodes = _
  cases Reader.node.every Cypher.node rows <;> rfl

/-! ### What callers see -/

/-- The names of the parts of a node, among values and for callers of a store. -/
def Node.shownAs : List (String × String) :=
  [("identity", "id"), ("labels", "labels"), ("properties", "properties")]

/-- The names of the parts of a relationship, among values and for callers of a store. -/
def Relation.shownAs : List (String × String) :=
  [("identity", "id"), ("relType", "type"), ("start", "from"), ("end", "to"),
    ("properties", "properties")]

/-- A value and what callers see have the same parts, under these names. -/
def SameParts (names : List (String × String)) (v w : Json) : Prop :=
  ∀ name ∈ names, ∃ part, v.member? name.1 = some part ∧ w.member? name.2 = some part

theorem Node.sameParts (n : Node) : SameParts Node.shownAs (Value.node n).toJson n.toJson := by
  simp [SameParts, shownAs, Value.toJson, described, toJson, Json.member?, Entries.get?]

theorem Relation.sameParts (r : Relation) :
    SameParts Relation.shownAs (Value.relation r).toJson r.toJson := by
  simp [SameParts, shownAs, Value.toJson, described, toJson, Json.member?, Entries.get?]

/-- **Reading many rows loses, invents and reorders nothing.**  Nodes and relationships are read
from a column of all rows faithfully; callers see all their parts; a list of the same values is read
alike, and what is no list is left alone.  A change of nodes, whatever the store has done before,
fails as the reading of its reply does, and otherwise tells by count what was read. -/
theorem many_rows_read_faithfully :
    (∀ column rows, Reader.node.Faithful .node column (Row.present column rows)
      (Reader.node.every column rows)) ∧
    (∀ column rows, Reader.relation.Faithful .relation column (Row.present column rows)
      (Reader.relation.every column rows)) ∧
    (∀ n : Node, SameParts Node.shownAs (Value.node n).toJson n.toJson) ∧
    (∀ r : Relation, SameParts Relation.shownAs (Value.relation r).toJson r.toJson) ∧
    (∀ column rows,
      Reader.node.ofList column (.list (Row.present column rows))
        = (Reader.node.every column rows).map .items ∧
      Reader.relation.ofList column (.list (Row.present column rows))
        = (Reader.relation.every column rows).map .items) ∧
    (∀ column v, (∀ items, v ≠ .list items) →
      Reader.node.ofList column v = .ok (.other v) ∧
      Reader.relation.ofList column v = .ok (.other v)) ∧
    ∀ (s : Store) (mode : WriteMode) (request : NodeChange) (rows : List Row),
      s.replies.headD {} = ⟨rows, none⟩ →
      (∀ nodes, Reader.node.every Cypher.node rows = .ok nodes →
        ∃ c, (s.perform (.setNodes mode request)).1 = .ok (.changedNodes c) ∧ c.Tells nodes) ∧
      ∀ f, Reader.node.every Cypher.node rows = .error f →
        (s.perform (.setNodes mode request)).1 = .error f := by
  refine ⟨Reader.faithful_every Reader.takes_node, Reader.faithful_every Reader.takes_relation,
    Node.sameParts, Relation.sameParts,
    fun column rows => ⟨Reader.ofList_present _ column rows, Reader.ofList_present _ column rows⟩,
    fun column v h => ⟨Reader.ofList_other _ column h, Reader.ofList_other _ column h⟩, ?_⟩
  intro s mode request rows hreply
  rw [Store.perform_setNodes s mode request hreply]
  constructor
  · intro nodes hnodes
    rw [hnodes]
    exact ⟨.ofList nodes, rfl, ByCount.tells_ofList nodes⟩
  · intro f hf
    rw [hf]
    rfl

/-- A person. -/
def person : Node := ⟨⟨1⟩, ["Person"], ∅⟩

/-- A city. -/
def city : Node := ⟨⟨2⟩, ["City"], ∅⟩

/-- Rows that hold a node, nothing, no such column, and a node before something else. -/
def scatteredRows : List Row :=
  [⟨[("m", .bool true), ("n", .node person)]⟩, ⟨[("n", .null), ("n", .node city)]⟩, ⟨[]⟩,
    ⟨[("n", .node city), ("n", .string "Rome")]⟩]

/-- Two nodes are read from such rows, a change of nodes tells that they are several, and no
relationship is read from them. -/
theorem many_rows_read_faithfully_scatteredRows :
    Reader.node.every Cypher.node scatteredRows = .ok [person, city] ∧
    (∃ c, ((Store.fresh {} [⟨scatteredRows, none⟩]).perform (.setNodes .merge {})).1
        = .ok (.changedNodes c) ∧ c.Tells [person, city]) ∧
    Reader.relation.every Cypher.node scatteredRows
      = .error (.wrongKind Cypher.node .relation .node) := by
  obtain ⟨hnodes, hrelations, -, -, -, -, hchange⟩ := many_rows_read_faithfully
  have hread : Reader.node.every Cypher.node scatteredRows = .ok [person, city] :=
    ((hnodes Cypher.node scatteredRows).all _).mpr rfl
  refine ⟨hread, (hchange _ .merge {} scatteredRows rfl).1 _ hread, ?_⟩
  exact ((hrelations Cypher.node scatteredRows).failure _).mpr
    ⟨[], .node person, [.node city], rfl, by simp, by simp, rfl⟩

end PropertyGraph
