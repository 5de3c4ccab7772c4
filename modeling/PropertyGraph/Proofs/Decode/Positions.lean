import PropertyGraph.Proofs.Decode.Records

/-!
# Fields by position and fields by name

A record may be written as an array, with its fields by position, or as an object, with its fields
by name.  The first fields of a record give the same in either way, whether some of them are left
out or not, and an array that has more items than there are fields is no record.

## Main results

* `Schema.byPosition_eq_ok_iff` — the fields that are still to come, in either way.
* `Schema.array_eq_ok_iff_object` — a record in either way.
* `array_and_object_agree` — **requests by position and by name are the same requests.**
-/

namespace PropertyGraph.Decode

open Json

namespace Schema

variable {α : Type} {s : Schema α} {o : Origin}

/-- The fields of a record from some field on: by position, and by name after the names of the
fields before them have been seen. -/
theorem byPosition_eq_ok_iff (hnames : s.names.Nodup) {fields : List (Field α)} :
    ∀ {before : List (Field α)}, s.fields = before ++ fields →
    ∀ {seen : List String}, (∀ k, k ∈ seen ↔ k ∈ before.map (·.name)) →
    ∀ {vs : List Json}, vs.length ≤ fields.length → ∀ (record x : α),
      byPosition o true fields record (Draft.ofItems vs) = .ok x ↔
        s.byName o true seen record (Draft.ofMembers ((fields.map (·.name)).zip vs)) = .ok x := by
  -- by induction on the fields that are still to come; those before them have been seen
  induction fields with
  | nil =>
    intro before hfields seen hseen vs hlength record x
    have hvs : vs = [] := List.eq_nil_of_length_eq_zero (Nat.le_zero.mp hlength)
    have hall : ∀ f ∈ s.fields, f.isRequired = true → f.name ∈ seen := by
      intro f hf _
      rw [hfields, List.append_nil] at hf
      exact (hseen f.name).mpr (List.mem_map.mpr ⟨f, hf, rfl⟩)
    subst hvs
    rw [byPosition_nil_eq_ok_iff, List.zip_nil_right, byName_nil_eq_ok_iff]
    constructor
    · rintro ⟨-, rfl⟩
      exact ⟨hall, rfl⟩
    · rintro ⟨-, rfl⟩
      exact ⟨fun f hf => absurd hf List.not_mem_nil, rfl⟩
  | cons f fields ih =>
    intro before hfields seen hseen vs hlength record x
    -- the names of the fields to come have not been seen
    have hfresh : ∀ g ∈ f :: fields, g.name ∉ seen := by
      intro g hg hin
      rw [names, hfields, List.map_append, List.nodup_append] at hnames
      have hbefore : g.name ∈ before.map (·.name) := (hseen g.name).mp hin
      exact hnames.2.2 g.name hbefore g.name (List.mem_map.mpr ⟨g, hg, rfl⟩) rfl
    cases vs with
    | nil =>
      rw [byPosition_nil_eq_ok_iff, List.zip_nil_right, byName_nil_eq_ok_iff, hfields]
      have hrequired : (∀ g ∈ f :: fields, g.isRequired = false) ↔
          ∀ g ∈ before ++ f :: fields, g.isRequired = true → g.name ∈ seen := by
        constructor
        · intro hnone g hg hreq
          rcases List.mem_append.mp hg with hdone | hcoming
          · exact (hseen g.name).mpr (List.mem_map.mpr ⟨g, hdone, rfl⟩)
          · rw [hnone g hcoming] at hreq
            cases hreq
        · intro hall g hg
          rw [← Bool.not_eq_true]
          intro hreq
          exact hfresh g hg (hall g (List.mem_append_right before hg) hreq)
      rw [hrequired]
    | cons v vs =>
      have hfield : s.field? f.name = some f := by
        refine field?_name hnames ?_
        rw [hfields]
        exact List.mem_append_right before (List.mem_cons_self ..)
      have hcoming := hfresh f (List.mem_cons_self ..)
      have hfields' : s.fields = (before ++ [f]) ++ fields := by
        rw [hfields, List.append_assoc, List.singleton_append]
      have hseen' : ∀ k, k ∈ f.name :: seen ↔ k ∈ (before ++ [f]).map (·.name) := by
        intro k
        rw [List.mem_cons, hseen k, List.map_append, List.mem_append, List.map_singleton,
          List.mem_singleton, or_comm]
      have hrest : ∀ write : α → α, _ ↔ _ := fun write =>
        ih hfields' hseen' (Nat.le_of_succ_le_succ hlength) (write record) x
      rw [List.map_cons, List.zip_cons_cons, byPosition_cons_eq_ok_iff, byName_cons_eq_ok_iff,
        hfield]
      constructor
      · rintro ⟨write, hread, hx⟩
        exact .inr ⟨f, write, rfl, hcoming, hread, (hrest write).mp hx⟩
      · rintro (⟨hnone, -⟩ | ⟨g, write, hsome, -, hread, hx⟩)
        · cases hnone
        · cases hsome
          exact ⟨write, hread, (hrest write).mpr hx⟩

/-- **The first fields of a record** are read alike by position and by name. -/
theorem array_eq_ok_iff_object (hnames : s.names.Nodup) {vs : List Json}
    (hlength : vs.length ≤ s.names.length) (x : α) :
    ofValue s.decode (.array vs) = .ok x ↔
      ofValue s.decode (.object (s.names.zip vs)) = .ok x := by
  rw [names, List.length_map] at hlength
  have hall : s.fields = [] ++ s.fields := rfl
  rw [ofValue_array, ofValue_object]
  exact byPosition_eq_ok_iff hnames hall (fun k => by simp) hlength s.blank x

/-- There is no field for an item behind the last one. -/
theorem byPosition_ne_ok {fields : List (Field α)} {vs : List Json}
    (hlength : fields.length < vs.length) (record x : α) :
    byPosition o true fields record (Draft.ofItems vs) ≠ .ok x := by
  induction fields generalizing vs record with
  | nil =>
    cases vs with
    | nil => cases hlength
    | cons v vs =>
      intro h
      cases h
  | cons f fields ih =>
    cases vs with
    | nil => cases hlength
    | cons v vs =>
      intro h
      obtain ⟨write, -, hrest⟩ := byPosition_cons_eq_ok_iff.mp h
      exact ih (Nat.lt_of_succ_lt_succ hlength) (write record) hrest

end Schema

/-- **Requests by position and by name are the same requests.**  Values for the first fields of a
request, in an array, are the same request as an object with these values under the names of the
fields, and no request when the object is none.  An array with more items is no request. -/
theorem array_and_object_agree (kind : RequestKind) (vs : List Json) :
    (vs.length ≤ kind.fieldNames.length → ∀ x,
      ofValue kind.schema.decode (.array vs) = .ok x ↔
        ofValue kind.schema.decode (.object (kind.fieldNames.zip vs)) = .ok x) ∧
    (kind.fieldNames.length < vs.length →
      ∃ fault, ofValue kind.schema.decode (.array vs) = .error fault) := by
  rw [← kind.names_schema]
  have hnames : kind.schema.names.Nodup := kind.names_schema ▸ kind.nodup_fieldNames
  refine ⟨fun hlength => Schema.array_eq_ok_iff_object hnames hlength, fun hlength => ?_⟩
  rw [Schema.names, List.length_map] at hlength
  cases hdecoded : ofValue kind.schema.decode (.array vs) with
  | error fault => exact ⟨fault, rfl⟩
  | ok x => exact absurd hdecoded (Schema.byPosition_ne_ok hlength kind.schema.blank x)

/-- The values of a change by identity: two words, and nothing to set. -/
def movedEntity : List Json :=
  [.object [("low", .number (.int (-1))), ("high", .number (.int 0))], .null]

/-- A change by identity with its fields by position, and one item too many. -/
theorem array_and_object_agree_movedEntity :
    movedEntity.length ≤ RequestKind.entityChange.fieldNames.length ∧
    ofValue Schema.entityChange.decode (.array movedEntity)
      = .ok { id := ⟨4294967295⟩, data := .empty } ∧
    RequestKind.entityChange.fieldNames.length < (movedEntity ++ [Json.null]).length ∧
    ∃ fault, ofValue Schema.entityChange.decode (.array (movedEntity ++ [Json.null]))
      = .error fault := by
  have hlength : movedEntity.length ≤ RequestKind.entityChange.fieldNames.length := by decide
  have hlonger :
      RequestKind.entityChange.fieldNames.length < (movedEntity ++ [Json.null]).length := by
    decide
  refine ⟨hlength, ?_, hlonger, (array_and_object_agree .entityChange _).2 hlonger⟩
  exact ((array_and_object_agree .entityChange movedEntity).1 hlength _).mpr rfl

end PropertyGraph.Decode
