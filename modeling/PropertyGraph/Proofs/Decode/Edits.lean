import Mathlib.Data.List.Pairwise
import Mathlib.Logic.Relation
import PropertyGraph.Proofs.Decode.Records

/-!
# Many objects are the same request

The members of an object may come in any order, members that are no fields do not count, and a
field that is `null` is a field that is not given.  So an object may be edited in these three ways,
as often as one likes, and stays the same request.

That the order does not count rests on the fields: what two of them write to a record does not
depend on which one comes first.

## Main definitions

* `Edit` — one edit of the members of an object.
* `Field.Commutes`, `Field.IgnoresNull` — what the fields of a record need for it.
* `Schema.IsLoose` — a record whose fields all do.
* `RequestKind.nullable` — the fields of a request that may be `null`.

## Main results

* `Schema.byName_perm` — the order of the members does not count.
* `Schema.ofValue_edit` — one edit changes nothing.
* `RequestKind.isLoose` — the fields of all requests have what it needs.
* `request_survives_edits` — **an edited object is the same request.**
-/

namespace PropertyGraph.Decode

open Json

/-- One edit of the members of an object, for a record with the given names of fields, of which some
may be `null`. -/
inductive Edit (names nullable : List String) :
    List (String × Json) → List (String × Json) → Prop where
  /-- The members come in another order. -/
  | reorder {ms ns : List (String × Json)} (h : ms.Perm ns) : Edit names nullable ms ns
  /-- A member that is no field is added, at any place. -/
  | addOther (before after : List (String × Json)) {k : String} (v : Json) (h : k ∉ names) :
    Edit names nullable (before ++ after) (before ++ (k, v) :: after)
  /-- A member that is no field is removed. -/
  | removeOther (before after : List (String × Json)) {k : String} {v : Json} (h : k ∉ names) :
    Edit names nullable (before ++ (k, v) :: after) (before ++ after)
  /-- A field that is absent is added as `null`, at any place. -/
  | addNull (before after : List (String × Json)) {k : String} (h : k ∈ nullable)
    (habsent : k ∉ Entries.keys (before ++ after)) :
    Edit names nullable (before ++ after) (before ++ (k, .null) :: after)
  /-- A field that is `null` is removed. -/
  | removeNull (before after : List (String × Json)) {k : String} (h : k ∈ nullable) :
    Edit names nullable (before ++ (k, .null) :: after) (before ++ after)

variable {α β γ : Type}

/-! ### Fields -/

namespace Field

/-- What two fields write does not depend on which one is written first. -/
def Commutes (f g : Field α) : Prop :=
  ∀ ⦃o : Origin⦄ ⦃d e : Draft⦄ ⦃write write' : α → α⦄,
    f.read o d = .ok write → g.read o e = .ok write' →
    ∀ record, write (write' record) = write' (write record)

/-- A field that may be left out, and that is `null` just as if it were left out. -/
def IgnoresNull (blank : α) (f : Field α) : Prop :=
  f.isRequired = false ∧ ∃ write, f.read .tree .null = .ok write ∧ write blank = blank

instance : Std.Symm (Commutes : Field α → Field α → Prop) :=
  ⟨fun _ _ h _ _ _ _ _ hg hf record => (h hf hg record).symm⟩

/-- Fields commute when they write to different parts of a record. -/
theorem commutes_of_write {name name' : String} {b b' : Bool} {decode : Decoder β}
    {decode' : Decoder γ} {write : β → α → α} {write' : γ → α → α}
    (h : ∀ x y record, write x (write' y record) = write' y (write x record)) :
    Commutes ⟨name, b, fun o d => (decode o d).map write⟩
      ⟨name', b', fun o d => (decode' o d).map write'⟩ := by
  intro o d e w w' hw hw' record
  dsimp only at hw hw'
  cases hx : decode o d with
  | error fault =>
    rw [hx] at hw
    cases hw
  | ok x =>
    cases hy : decode' o e with
    | error fault =>
      rw [hy] at hw'
      cases hw'
    | ok y =>
      rw [hx] at hw
      rw [hy] at hw'
      cases hw
      cases hw'
      exact h x y record

variable {blank : α} {name : String}

theorem ignoresNull_of {decode : Decoder β} {write : β → α → α} {x : β}
    (hnull : decode .tree .null = .ok x) (hblank : write x blank = blank) :
    (Field.of name decode write).IgnoresNull blank := by
  refine ⟨rfl, write x, ?_, hblank⟩
  show (decode .tree .null).map write = _
  rw [hnull]
  rfl

@[simp] theorem ignoresNull_optional {decode : Decoder β} {write : Option β → α → α}
    (h : write none blank = blank) : (Field.of name (optional decode) write).IgnoresNull blank :=
  ignoresNull_of rfl h

@[simp] theorem ignoresNull_identityIfAny {write : Option Identity → α → α}
    (h : write none blank = blank) : (Field.of name identityIfAny write).IgnoresNull blank :=
  ignoresNull_of rfl h

@[simp] theorem name_of {decode : Decoder β} {write : β → α → α} :
    (Field.of name decode write).name = name := rfl

@[simp] theorem name_required {decode : Decoder β} {write : β → α → α} :
    (Field.required name decode write).name = name := rfl

end Field

namespace Schema

variable {blank : α} {name : String}

@[simp] theorem ignoresNull_labelsField {write : List String → α → α}
    (h : write [] blank = blank) : (labelsField write).IgnoresNull blank :=
  Field.ignoresNull_of rfl h

@[simp] theorem ignoresNull_dataField {write : Properties → α → α}
    (h : write ∅ blank = blank) : (dataField write).IgnoresNull blank :=
  Field.ignoresNull_of rfl h

@[simp] theorem ignoresNull_filterField {write : Option Properties → α → α}
    (h : write none blank = blank) : (filterField write).IgnoresNull blank :=
  Field.ignoresNull_optional h

@[simp] theorem ignoresNull_typeField {write : Option String → α → α}
    (h : write none blank = blank) : (typeField write).IgnoresNull blank :=
  Field.ignoresNull_optional h

@[simp] theorem ignoresNull_endpointField {write : Endpoint → α → α}
    (h : write .any blank = blank) : (endpointField name write).IgnoresNull blank :=
  Field.ignoresNull_of rfl h

@[simp] theorem ignoresNull_eitherWayField {write : Bool → α → α}
    (h : write false blank = blank) : (eitherWayField write).IgnoresNull blank :=
  Field.ignoresNull_of rfl h

@[simp] theorem ignoresNull_pagingField {write : Option Paging → α → α}
    (h : write none blank = blank) : (pagingField write).IgnoresNull blank :=
  Field.ignoresNull_optional h

end Schema

/-! ### Records -/

namespace Schema

variable {s : Schema α} {o : Origin} {seen : List String} {record x : α}
  {ms ns : List (String × Json)} {nullable : List String}

/-- A record whose fields have distinct names, do not mind their order, and may be `null` where this
is said. -/
structure IsLoose (s : Schema α) (nullable : List String) : Prop where
  /-- The names are distinct. -/
  nodup : s.names.Nodup
  /-- The order of the fields does not count. -/
  commutes : s.fields.Pairwise Field.Commutes
  /-- Some fields may be `null`. -/
  ignoresNull : ∀ f ∈ s.fields, f.name ∈ nullable → f.IgnoresNull s.blank

/-- **The order of the members does not count.** -/
theorem byName_perm (hcommutes : s.fields.Pairwise Field.Commutes) (h : ms.Perm ns)
    (hx : s.byName o true seen record (Draft.ofMembers ms) = .ok x) :
    s.byName o true seen record (Draft.ofMembers ns) = .ok x := by
  induction h generalizing seen record with
  | nil => exact hx
  | cons m _ ih =>
    obtain ⟨k, v⟩ := m
    rcases byName_cons_eq_ok_iff.mp hx with ⟨hk, hrest⟩ | ⟨f, write, hf, hk, hread, hrest⟩
    · exact byName_cons_eq_ok_iff.mpr (.inl ⟨hk, ih hrest⟩)
    · exact byName_cons_eq_ok_iff.mpr (.inr ⟨f, write, hf, hk, hread, ih hrest⟩)
  | swap m n ms =>
    obtain ⟨k, v⟩ := m
    obtain ⟨l, w⟩ := n
    rw [byName_cons_eq_ok_iff] at hx ⊢
    rcases hx with ⟨hl, hx⟩ | ⟨g, write', hg, hl, hreadg, hx⟩
    · -- the first member is skipped, before or after the other one
      rcases byName_cons_eq_ok_iff.mp hx with ⟨hk, hx⟩ | ⟨f, write, hf, hk, hreadf, hx⟩
      · exact .inl ⟨hk, byName_cons_eq_ok_iff.mpr (.inl ⟨hl, hx⟩)⟩
      · exact .inr ⟨f, write, hf, hk, hreadf, byName_cons_eq_ok_iff.mpr (.inl ⟨hl, hx⟩)⟩
    · rcases byName_cons_eq_ok_iff.mp hx with ⟨hk, hx⟩ | ⟨f, write, hf, hk, hreadf, hx⟩
      · exact .inl ⟨hk, byName_cons_eq_ok_iff.mpr (.inr ⟨g, write', hg, hl, hreadg, hx⟩)⟩
      · -- both members write, to fields with different names
        rw [List.mem_cons, not_or] at hk
        have hfg : f ≠ g := by
          rintro rfl
          exact hk.1 ((name_of_field? hf).symm.trans (name_of_field? hg))
        have hswap : write (write' record) = write' (write record) :=
          hcommutes.forall (mem_of_field? hf) (mem_of_field? hg) hfg hreadf hreadg record
        have hl' : l ∉ k :: seen := by
          rw [List.mem_cons, not_or]
          exact ⟨Ne.symm hk.1, hl⟩
        rw [hswap] at hx
        refine .inr ⟨f, write, hf, hk.2, hreadf,
          byName_cons_eq_ok_iff.mpr (.inr ⟨g, write', hg, hl', hreadg, ?_⟩)⟩
        refine (byName_congr_seen (fun n _ => ?_) (fun f _ _ => ?_)).mp hx
        · simp only [List.mem_cons, or_left_comm]
        · simp only [List.mem_cons, or_left_comm]
  | trans _ _ ih ih' => exact ih' (ih hx)

/-- A member that is no field is skipped. -/
theorem ofValue_cons_other {k : String} (hk : k ∉ s.names) (v : Json) :
    ofValue s.decode (.object ((k, v) :: ms)) = .ok x ↔
      ofValue s.decode (.object ms) = .ok x := by
  rw [ofValue_object, ofValue_object, byName_cons_eq_ok_iff, field?_eq_none_iff.mpr hk]
  simp

/-- A field that is `null` counts as absent. -/
theorem ofValue_cons_null (hs : s.IsLoose nullable) {k : String} (hk : k ∈ nullable)
    (hname : k ∈ s.names) (habsent : k ∉ Entries.keys ms) :
    ofValue s.decode (.object ((k, .null) :: ms)) = .ok x ↔
      ofValue s.decode (.object ms) = .ok x := by
  obtain ⟨f, hf, rfl⟩ := List.mem_map.mp hname
  obtain ⟨hoptional, write, hread, hblank⟩ := hs.ignoresNull f hf hk
  have hfield : s.field? f.name = some f := field?_name hs.nodup hf
  have hseen : s.byName .tree true [f.name] s.blank (Draft.ofMembers ms) = .ok x ↔
      s.byName .tree true [] s.blank (Draft.ofMembers ms) = .ok x := by
    refine byName_congr_seen (fun l hl => ?_) (fun g hg hrequired => ?_)
    · have hne : l ≠ f.name := by
        rintro rfl
        exact habsent hl
      simp [hne]
    · -- a required field has another name, as names are distinct
      have hne : g.name ≠ f.name := by
        intro heq
        have hgf : g = f := List.inj_on_of_nodup_map hs.nodup hg hf heq
        rw [hgf, hoptional] at hrequired
        cases hrequired
      simp [hne]
  rw [ofValue_object, ofValue_object, byName_cons_eq_ok_iff, hfield, ← hseen]
  constructor
  · rintro (⟨hnone, -⟩ | ⟨g, write', hsome, -, hread', hx⟩)
    · cases hnone
    · cases hsome
      have hsame : write = write' := Except.ok.inj (hread.symm.trans hread')
      rwa [← hsame, hblank] at hx
  · intro hx
    refine .inr ⟨f, write, rfl, List.not_mem_nil, hread, ?_⟩
    rwa [hblank]

/-- **One edit changes nothing**: what an object is decoded to stays. -/
theorem ofValue_edit (hs : s.IsLoose nullable) (hnullable : ∀ k ∈ nullable, k ∈ s.names)
    (h : Edit s.names nullable ms ns) (hx : ofValue s.decode (.object ms) = .ok x) :
    ofValue s.decode (.object ns) = .ok x := by
  have hperm : ∀ {ms ns : List (String × Json)}, ms.Perm ns →
      ofValue s.decode (.object ms) = .ok x → ofValue s.decode (.object ns) = .ok x :=
    fun hp hx => byName_perm hs.commutes hp hx
  cases h with
  | reorder hp => exact hperm hp hx
  | addOther before after v hk =>
    exact hperm List.perm_middle.symm ((ofValue_cons_other hk v).mpr hx)
  | removeOther before after hk =>
    exact (ofValue_cons_other hk _).mp (hperm List.perm_middle hx)
  | addNull before after hk habsent =>
    exact hperm List.perm_middle.symm
      ((ofValue_cons_null hs hk (hnullable _ hk) habsent).mpr hx)
  | @removeNull before after k hk =>
    have hfront := hperm List.perm_middle hx
    have habsent : k ∉ Entries.keys (before ++ after) := by
      rcases byName_cons_eq_ok_iff.mp hfront with ⟨hnone, -⟩ | ⟨f, write, -, -, -, hrest⟩
      · exact absurd (hnullable k hk) (field?_eq_none_iff.mp hnone)
      · exact notMem_keys_of_byName (List.mem_singleton_self k) (hnullable k hk) hrest
    exact (ofValue_cons_null hs hk (hnullable k hk) habsent).mp hfront

end Schema

/-! ### Requests -/

namespace RequestKind

/-- The fields of a request that have to be given with a value: an identity where nothing else says
what is meant, and the text of a raw query. -/
def refusingNull : RequestKind → List String
  | byIdentity => ["id"]
  | entityChange => ["id"]
  | rawQuery => ["query"]
  | _ => []

/-- The fields of a request that may be `null`. -/
def nullable (kind : RequestKind) : List String :=
  kind.fieldNames.filter (· ∉ kind.refusingNull)

theorem commutes_fields (kind : RequestKind) : kind.schema.fields.Pairwise Field.Commutes := by
  cases kind <;>
  simp [schema, Schema.nodeCreation, Schema.nodeSelector, Schema.nodeChange, Schema.nodeSearch,
    Schema.byIdentity, Schema.entityChange, Schema.nodeProbe, Schema.relationCreation,
    Schema.relationChange, Schema.relationSelector, Schema.relationSearch, Schema.selectorFields,
    Schema.sourceSearch, Schema.targetSearch, Schema.neighbourSearch, Schema.endSearch,
    Schema.relationProbe, Schema.rawQuery, Schema.labelsField, Schema.dataField,
    Schema.filterField, Schema.typeField, Schema.endpointField, Schema.eitherWayField,
    Schema.pagingField, Field.of, Field.required, Field.commutes_of_write]

/-- A field is ignored when it is `null`, or it is among those that have to be given. -/
theorem ignoresNull_or_mem_refusingNull (kind : RequestKind) :
    ∀ f ∈ kind.schema.fields,
      f.IgnoresNull kind.schema.blank ∨ f.name ∈ kind.refusingNull := by
  cases kind <;>
  simp [schema, refusingNull, Schema.nodeCreation, Schema.nodeSelector, Schema.nodeChange,
    Schema.nodeSearch, Schema.byIdentity, Schema.entityChange, Schema.nodeProbe,
    Schema.relationCreation, Schema.relationChange, Schema.relationSelector,
    Schema.relationSearch, Schema.selectorFields, Schema.sourceSearch, Schema.targetSearch,
    Schema.neighbourSearch, Schema.endSearch, Schema.relationProbe, Schema.rawQuery]

/-- **The fields of all requests** do not mind their order, and may be `null` where this is said. -/
theorem isLoose (kind : RequestKind) : kind.schema.IsLoose kind.nullable where
  nodup := by
    rw [names_schema]
    exact kind.nodup_fieldNames
  commutes := kind.commutes_fields
  ignoresNull := by
    intro f hf hname
    have hgiven : f.name ∉ kind.refusingNull := by
      simpa using (List.mem_filter.mp hname).2
    exact (kind.ignoresNull_or_mem_refusingNull f hf).resolve_right hgiven

end RequestKind

/-- **An edited object is the same request**: reordering its members, adding and removing members
that are no fields, and adding and removing fields that are `null`, as often as one likes. -/
theorem request_survives_edits (kind : RequestKind) {ms ns : List (String × Json)}
    (h : Relation.ReflTransGen (Edit kind.fieldNames kind.nullable) ms ns) {x : kind.Body}
    (hx : ofValue kind.schema.decode (.object ms) = .ok x) :
    ofValue kind.schema.decode (.object ns) = .ok x := by
  have hnullable : ∀ k ∈ kind.nullable, k ∈ kind.schema.names := by
    intro k hk
    rw [kind.names_schema]
    exact (List.mem_filter.mp hk).1
  rw [← kind.names_schema] at h
  induction h with
  | refl => exact hx
  | tail _ hedit ih => exact Schema.ofValue_edit kind.isLoose hnullable hedit ih

/-- A probe for relationships from one node. -/
def bareProbe : List (String × Json) :=
  [("from", .object [("id", .number (.int 7))]), ("type", .string "KNOWS")]

/-- The same probe in another order, with a remark and without a direction. -/
def remarkedProbe : List (String × Json) :=
  [("type", .string "KNOWS"), ("from", .object [("id", .number (.int 7))]),
    ("anyDirection", .null), ("note", .bool true)]

/-- A remark, a direction that is `null` and another order do not change a probe. -/
theorem request_survives_edits_remarkedProbe :
    Relation.ReflTransGen
      (Edit RequestKind.relationProbe.fieldNames RequestKind.relationProbe.nullable)
      bareProbe remarkedProbe ∧
    ofValue Schema.relationProbe.decode (.object bareProbe)
      = .ok { source := .node ⟨7⟩, relType := some "KNOWS" } ∧
    ofValue Schema.relationProbe.decode (.object remarkedProbe)
      = .ok { source := .node ⟨7⟩, relType := some "KNOWS" } := by
  have hremark : Edit RequestKind.relationProbe.fieldNames RequestKind.relationProbe.nullable
      bareProbe (("note", .bool true) :: bareProbe) :=
    .addOther [] bareProbe (.bool true) (by decide)
  have hdirection : Edit RequestKind.relationProbe.fieldNames RequestKind.relationProbe.nullable
      (("note", .bool true) :: bareProbe)
      (("note", .bool true) :: ("anyDirection", .null) :: bareProbe) :=
    .addNull [("note", .bool true)] bareProbe (by decide) (by decide)
  have horder : (("note", Json.bool true) :: ("anyDirection", Json.null) :: bareProbe).Perm
      remarkedProbe :=
    (List.reverse_perm _).symm
  have hedits := ((Relation.ReflTransGen.single hremark).tail hdirection).tail (.reorder horder)
  have hbare : ofValue Schema.relationProbe.decode (.object bareProbe)
      = .ok { source := .node ⟨7⟩, relType := some "KNOWS" } := rfl
  exact ⟨hedits, hbare, request_survives_edits .relationProbe hedits hbare⟩

end PropertyGraph.Decode
