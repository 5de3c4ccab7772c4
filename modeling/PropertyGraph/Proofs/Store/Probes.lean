import Mathlib.Data.List.Basic
import PropertyGraph.Proofs.Store.Columns

/-!
# Checks for a relationship look at one row

A check for a relationship without an identity searches for it and asks for one row only.  Rows
without a relationship are dropped after that row was taken: the check says whether the first row of
the whole search holds a relationship, and the search says whether any row does.

## Main definitions

* `Row.relation?`, `Row.HoldsRelation` — the relationship that a row holds.

## Main results

* `Reader.every_relation` — a search for relationships gives those that the rows hold.
* `Plan.relationExists_eq` — a check without an identity is a search with one row.
* `Operation.relationExists_agrees_iff` — when check and search agree.
* `Operation.relationExists_misses_second_row` — a check that does not see what the search finds.
-/

namespace PropertyGraph

open Cypher

/-! ### Rows of relationships -/

namespace Row

/-- The relationship that a row holds in the column of relationships. -/
def relation? (row : Row) : Option Relation :=
  (row.get? relation).bind Value.relation?

/-- Whether a row holds a relationship. -/
def HoldsRelation (row : Row) : Prop :=
  ∃ r, row.get? relation = some (.relation r)

theorem holdsRelation_iff (row : Row) : row.HoldsRelation ↔ row.relation?.isSome = true := by
  unfold HoldsRelation relation?
  cases row.get? relation with
  | none => simp
  | some v => cases v <;> simp [Value.relation?]

theorem filterMap_relation?_ne_nil (rows : List Row) :
    rows.filterMap relation? ≠ [] ↔ ∃ row ∈ rows, row.HoldsRelation := by
  simp only [ne_eq, List.filterMap_eq_nil_iff, holdsRelation_iff, not_forall,
    Option.isSome_iff_ne_none, exists_prop]

/-- Whether there is a relationship in the first row alone. -/
theorem filterMap_relation?_take_one (rows : List Row) :
    (!((rows.take 1).filterMap relation?).isEmpty) = true
      ↔ ∃ row, rows.head? = some row ∧ row.HoldsRelation := by
  rw [Bool.not_eq_true', List.isEmpty_eq_false_iff, filterMap_relation?_ne_nil, List.take_one]
  simp only [Option.mem_toList]

end Row

/-- A search for relationships gives those that the rows hold, when nothing else is in their
column. -/
theorem Reader.every_relation {rows : List Row}
    (h : ∀ row ∈ rows, row.get? Cypher.relation = some .null ∨ row.HoldsRelation) :
    Reader.relation.every Cypher.relation rows = .ok (rows.filterMap Row.relation?) := by
  have hvalues : values Cypher.relation rows
      = (rows.filterMap Row.relation?).map Value.relation := by
    rw [List.map_filterMap]
    refine List.filterMap_congr fun row hrow => ?_
    unfold value? Row.relation?
    rcases h row hrow with hnull | ⟨r, hr⟩
    · rw [hnull]; rfl
    · rw [hr]; rfl
  rw [every, hvalues, each_eq_ok_iff, List.map_map]
  rfl

/-! ### The check as a search -/

theorem RelationSelector.isSelective_of {s : RelationSelector}
    (h : (∃ t, s.relType = some t ∧ t ≠ "") ∨ s.source ≠ .any ∨ s.target ≠ .any) :
    s.isSelective = true := by
  have hnamed {e : Endpoint} (he : e ≠ .any) : e.hasVariable = true := by
    cases e with
    | any => exact absurd rfl he
    | node id => rfl
    | selected nodes => rfl
  unfold isSelective
  rcases h with ⟨t, ht, hne⟩ | hsource | htarget
  · simp [ht, isEmpty_eq_false hne]
  · simp [hnamed hsource]
  · simp [hnamed htarget]

theorem Identity.bind_nonnegative?_eq_none {id : Option Identity}
    (h : ∀ i, id = some i → i.toInt < 0) : id.bind Identity.nonnegative? = none := by
  cases id with
  | none => rfl
  | some i => exact if_neg (Int.not_le.mpr (h i rfl))

/-- A check without an identity that decides is a search for one row. -/
theorem Plan.relationExists_eq {p : RelationProbe} (hid : ∀ id, p.id = some id → id.toInt < 0)
    (h : p.relations.isSelective = true) :
    Plan.relationExists p = (Plan.query (Cypher.findRelations p.relations (some probePage))
      fun rows => (Reader.relation.every relation rows).map fun found => !found.isEmpty) := by
  unfold relationExists
  rw [Identity.bind_nonnegative?_eq_none hid]
  dsimp only
  rw [if_pos h, Plan.findRelations]
  dsimp only
  rw [paged_of_limit_ne_zero (by decide)]
  refine congrArg (Plan.query _) (funext fun rows => ?_)
  show ((Reader.relation.every relation rows).map some).map found = _
  cases Reader.relation.every relation rows <;> rfl

theorem Paging.suffix_probePage : Paging.suffix (some Plan.probePage) relation = " LIMIT 1" := by
  decide

/-- The text for one row is the text for all of them with a limit behind it. -/
theorem Cypher.text_findRelations_probePage (s : RelationSelector) :
    (Cypher.findRelations s (some Plan.probePage)).text
      = (Cypher.findRelations s none).text ++ " LIMIT 1" := by
  unfold Cypher.findRelations
  rw [Paging.suffix_probePage]
  show _ = (matching s .condition ++ returningDistinct relation ++ "") ++ " LIMIT 1"
  rw [String.append_empty]

namespace Operation

section

variable (settings : Settings) {rows : List Row}

/-- A search for all relationships answers with those that the rows hold. -/
theorem answer_findRelations (s : RelationSelector)
    (h : ∀ row ∈ rows, row.get? relation = some .null ∨ row.HoldsRelation) :
    ((findRelations ⟨s, none⟩).alone settings ⟨rows, none⟩).1
      = .ok (.relations (some (rows.filterMap Row.relation?))) := by
  rw [answer_alone]
  show ((Reader.relation.every relation rows).map some).map Answer.relations = _
  rw [Reader.every_relation h]
  rfl

/-- A check without an identity answers whether the rows hold a relationship. -/
theorem answer_relationExists {p : RelationProbe} (hid : ∀ id, p.id = some id → id.toInt < 0)
    (hsel : p.relations.isSelective = true)
    (h : ∀ row ∈ rows, row.get? relation = some .null ∨ row.HoldsRelation) :
    ((relationExists p).alone settings ⟨rows, none⟩).1
      = .ok (.truth (!(rows.filterMap Row.relation?).isEmpty)) := by
  rw [answer_alone, plan, Plan.relationExists_eq hid hsel]
  show ((Reader.relation.every relation rows).map fun found => !found.isEmpty).map Answer.truth = _
  rw [Reader.every_relation h]
  rfl

theorem statements_relationExists {p : RelationProbe} (hid : ∀ id, p.id = some id → id.toInt < 0)
    (hsel : p.relations.isSelective = true) (reply : Reply) :
    ((relationExists p).alone settings reply).2.statements
      = [Cypher.findRelations p.relations (some Plan.probePage)] := by
  rw [statements_alone, plan, Plan.relationExists_eq hid hsel]
  rfl

end

/-- **A check for a relationship sees the first row only.**  For a probe without an identity that
decides, with a type or an endpoint, the check runs the search for its relationships with a limit of
one behind the text.  When the search is answered with rows that hold a relationship or nothing, and
the check with the first of them, then the search gives the relationships of all rows, and the check
says whether the first row holds one.  The check says whether the search finds something exactly
when the first row holds a relationship as soon as any row does. -/
theorem relationExists_agrees_iff (settings : Settings) (p : RelationProbe)
    (hid : ∀ id, p.id = some id → id.toInt < 0)
    (hsel : (∃ t, p.relType = some t ∧ t ≠ "") ∨ p.source ≠ .any ∨ p.target ≠ .any)
    (rows : List Row)
    (hrows : ∀ row ∈ rows, row.get? relation = some .null ∨ row.HoldsRelation) :
    let search := findRelations ⟨⟨p.source, p.relType, p.target, p.eitherWay, none⟩, none⟩
    let searched := search.alone settings ⟨rows, none⟩
    let checked := (relationExists p).alone settings ⟨rows.take 1, none⟩
    ∃ (statement probe : Statement) (found : List Relation) (there : Bool),
      searched.2.statements = [statement] ∧ checked.2.statements = [probe] ∧
      probe.text = statement.text ++ " LIMIT 1" ∧ probe.params = statement.params ∧
      searched.1 = .ok (.relations (some found)) ∧ found = rows.filterMap Row.relation? ∧
      checked.1 = .ok (.truth there) ∧
      (there = true ↔ ∃ row, rows.head? = some row ∧ row.HoldsRelation) ∧
      ((there = true ↔ found ≠ []) ↔
        ((∃ row ∈ rows, row.HoldsRelation) →
          ∃ row, rows.head? = some row ∧ row.HoldsRelation)) := by
  intro search searched checked
  have hselective : p.relations.isSelective = true := RelationSelector.isSelective_of hsel
  have hfirst : ∀ row ∈ rows.take 1, row.get? relation = some .null ∨ row.HoldsRelation :=
    fun row hrow => hrows row (List.mem_of_mem_take hrow)
  have hthere := Row.filterMap_relation?_take_one rows
  refine ⟨Cypher.findRelations p.relations none,
    Cypher.findRelations p.relations (some Plan.probePage), rows.filterMap Row.relation?,
    !((rows.take 1).filterMap Row.relation?).isEmpty, statements_alone settings _ search,
    statements_relationExists settings hid hselective _, Cypher.text_findRelations_probePage _, rfl,
    answer_findRelations settings _ hrows, rfl,
    answer_relationExists settings hid hselective hfirst, hthere, ?_⟩
  -- a first row with a relationship is a row with one, so that only one direction can fail
  rw [hthere, Row.filterMap_relation?_ne_nil]
  constructor
  · intro h
    exact h.mpr
  · intro h
    refine ⟨?_, h⟩
    rintro ⟨row, hhead, hholds⟩
    exact ⟨row, List.mem_of_head? hhead, hholds⟩

/-- Whether some person knows somebody. -/
def anyAcquaintance : RelationProbe :=
  { source := .selected { labels := ["Person"] }, relType := some "KNOWS" }

/-- One acquaintance. -/
def acquaintance : Relation :=
  ⟨⟨7⟩, "KNOWS", ⟨1⟩, ⟨2⟩, ∅⟩

/-- What the search gives when one person knows nobody and another one somebody. -/
def missOf : Row := ⟨[("r", .null)]⟩

/-- The row of the person who knows somebody. -/
def hitOf : Row := ⟨[("r", .relation acquaintance)]⟩

/-- Both rows hold a relationship or nothing, whichever comes first. -/
theorem null_or_holds_of_mem {row : Row} (h : row ∈ [missOf, hitOf]) :
    row.get? relation = some .null ∨ row.HoldsRelation := by
  rcases List.mem_cons.mp h with rfl | h
  · exact .inl rfl
  · rw [List.mem_singleton.mp h]
    exact .inr ⟨acquaintance, rfl⟩

/-- With the acquaintance in front, check and search agree. -/
theorem relationExists_agrees_iff_hit_first :
    (∀ id, anyAcquaintance.id = some id → id.toInt < 0) ∧
    (∀ row ∈ [hitOf, missOf], row.get? relation = some .null ∨ row.HoldsRelation) ∧
    ((findRelations ⟨anyAcquaintance.relations, none⟩).alone {} ⟨[hitOf, missOf], none⟩).1
      = .ok (.relations (some [acquaintance])) ∧
    ((relationExists anyAcquaintance).alone {} ⟨[hitOf], none⟩).1 = .ok (.truth true) := by
  have hid : ∀ id, anyAcquaintance.id = some id → id.toInt < 0 := by
    intro id h
    cases h
  have hrows : ∀ row ∈ [hitOf, missOf], row.get? relation = some .null ∨ row.HoldsRelation := by
    intro row hrow
    exact null_or_holds_of_mem ((List.Perm.swap missOf hitOf []).mem_iff.mp hrow)
  obtain ⟨_, _, found, there, -, -, -, -, hsearched, hfound, hchecked, hthere, -⟩ :=
    relationExists_agrees_iff {} anyAcquaintance hid (.inl ⟨"KNOWS", rfl, by decide⟩)
      [hitOf, missOf] hrows
  obtain rfl : found = [acquaintance] := hfound
  obtain rfl : there = true := hthere.mpr ⟨hitOf, rfl, acquaintance, rfl⟩
  exact ⟨hid, hrows, hsearched, hchecked⟩

/-- **A check can miss what a search finds**: when the first row holds no relationship and the
second one does, the check says that there is none. -/
theorem relationExists_misses_second_row :
    ¬∀ (settings : Settings) (p : RelationProbe) (rows : List Row),
      (∀ id, p.id = some id → id.toInt < 0) →
      ((∃ t, p.relType = some t ∧ t ≠ "") ∨ p.source ≠ .any ∨ p.target ≠ .any) →
      (∀ row ∈ rows, row.get? relation = some .null ∨ row.HoldsRelation) →
      ∀ (found : List Relation) (there : Bool),
        ((findRelations ⟨p.relations, none⟩).alone settings ⟨rows, none⟩).1
          = .ok (.relations (some found)) →
        ((relationExists p).alone settings ⟨rows.take 1, none⟩).1 = .ok (.truth there) →
        (there = true ↔ found ≠ []) := by
  intro h
  have hagree := h {} anyAcquaintance [missOf, hitOf] (fun _ hid => by cases hid)
    (.inl ⟨"KNOWS", rfl, by decide⟩) (fun _ => null_or_holds_of_mem) [acquaintance] false rfl rfl
  simp at hagree

end Operation

end PropertyGraph
