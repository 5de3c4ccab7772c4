import Mathlib.Data.List.Nodup
import PropertyGraph.Decode.Document
import PropertyGraph.Proofs.Decode.Kinds
import PropertyGraph.Proofs.Json.Nesting

/-!
# Records are read field by field

What one step of reading a record can do, by name and by position, so that no other proof has to
look into the two readers: a member is skipped when no field has its name, and otherwise it writes
one field, which was not written before.  At the end all required fields have been written.

## Main definitions

* `Schema.names` — the names of the fields of a record.
* `RequestKind.fieldNames` — the names of the fields of a request, in the order that they have in an
  array.

## Main results

* `Schema.byName_nil_eq_ok_iff`, `Schema.byName_cons_eq_ok_iff` — one step by name.
* `Schema.byPosition_nil_eq_ok_iff`, `Schema.byPosition_cons_eq_ok_iff` — one step by position.
* `Schema.byName_congr_seen` — only those names that still matter have to be remembered.
-/

namespace PropertyGraph.Decode

open Json

namespace Schema

variable {α : Type} {s : Schema α} {o : Origin} {seen seen' : List String} {record x : α}
  {k : String} {v : Json} {ms : List (String × Json)} {f : Field α}

/-- The names of the fields, in the order that they have in an array. -/
def names (s : Schema α) : List String :=
  s.fields.map (·.name)

/-! ### Fields by name -/

theorem mem_names_of_mem (hf : f ∈ s.fields) : f.name ∈ s.names :=
  List.mem_map.mpr ⟨f, hf, rfl⟩

theorem field?_eq_none_iff : s.field? k = none ↔ k ∉ s.names := by
  unfold field? names
  rw [List.find?_eq_none]
  constructor
  · intro h hk
    obtain ⟨f, hf, hname⟩ := List.mem_map.mp hk
    exact h f hf (by simpa using hname)
  · intro h f hf hname
    exact h (List.mem_map.mpr ⟨f, hf, by simpa using hname⟩)

theorem mem_of_field? (h : s.field? k = some f) : f ∈ s.fields :=
  List.mem_of_find?_eq_some h

theorem name_of_field? (h : s.field? k = some f) : f.name = k := by
  have hname := List.find?_some h
  simpa using hname

/-- A field is found under its name, where names are distinct. -/
theorem field?_name (hnames : s.names.Nodup) (hf : f ∈ s.fields) : s.field? f.name = some f := by
  cases hfound : s.field? f.name with
  | none => exact absurd (mem_names_of_mem hf) (field?_eq_none_iff.mp hfound)
  | some g =>
    have hg : g ∈ s.fields := mem_of_field? hfound
    have hname : g.name = f.name := name_of_field? hfound
    rw [List.inj_on_of_nodup_map hnames hg hf hname]

theorem missing?_eq_none_iff :
    s.missing? seen = none ↔ ∀ f ∈ s.fields, f.isRequired = true → f.name ∈ seen := by
  unfold missing?
  rw [List.find?_eq_none]
  simp

/-! ### One step by name -/

/-- At the end of an object all required fields have been written. -/
theorem byName_nil_eq_ok_iff :
    s.byName o true seen record (Draft.ofMembers []) = .ok x ↔
      (∀ f ∈ s.fields, f.isRequired = true → f.name ∈ seen) ∧ x = record := by
  rw [← missing?_eq_none_iff, Draft.ofMembers, byName, if_pos rfl]
  cases s.missing? seen with
  | none => simp [eq_comm]
  | some f => simp

/-- A member is skipped, or it writes a field that was not written before. -/
theorem byName_cons_eq_ok_iff :
    s.byName o true seen record (Draft.ofMembers ((k, v) :: ms)) = .ok x ↔
      (s.field? k = none ∧ s.byName o true seen record (Draft.ofMembers ms) = .ok x) ∨
      ∃ f write, s.field? k = some f ∧ k ∉ seen ∧ f.read o (.ofJson v) = .ok write ∧
        s.byName o true (k :: seen) (write record) (Draft.ofMembers ms) = .ok x := by
  rw [Draft.ofMembers, byName]
  cases hf : s.field? k with
  | none => simp [Draft.isComplete_ofJson]
  | some f =>
    by_cases hk : k ∈ seen
    · simp [hk]
    · cases hread : f.read o (.ofJson v) with
      | error e => simp [hk, hread]
      | ok write => simp [hk, hread]

/-- Only those names that still matter have to be remembered: the names of the members to come, and
those of required fields. -/
theorem byName_congr_seen (hkeys : ∀ k ∈ Entries.keys ms, k ∈ seen ↔ k ∈ seen')
    (hrequired : ∀ f ∈ s.fields, f.isRequired = true → (f.name ∈ seen ↔ f.name ∈ seen')) :
    s.byName o true seen record (Draft.ofMembers ms) = .ok x ↔
      s.byName o true seen' record (Draft.ofMembers ms) = .ok x := by
  induction ms generalizing seen seen' record with
  | nil =>
    rw [byName_nil_eq_ok_iff, byName_nil_eq_ok_iff]
    have hsame : (∀ f ∈ s.fields, f.isRequired = true → f.name ∈ seen) ↔
        ∀ f ∈ s.fields, f.isRequired = true → f.name ∈ seen' := by
      constructor <;> intro h f hf hreq
      · exact (hrequired f hf hreq).mp (h f hf hreq)
      · exact (hrequired f hf hreq).mpr (h f hf hreq)
    rw [hsame]
  | cons m ms ih =>
    obtain ⟨k, v⟩ := m
    rw [Entries.keys_cons, List.forall_mem_cons] at hkeys
    obtain ⟨hk, hkeys⟩ := hkeys
    have hskip : s.byName o true seen record (Draft.ofMembers ms) = .ok x ↔
        s.byName o true seen' record (Draft.ofMembers ms) = .ok x := ih hkeys hrequired
    have hwrite : ∀ write : α → α,
        s.byName o true (k :: seen) (write record) (Draft.ofMembers ms) = .ok x ↔
          s.byName o true (k :: seen') (write record) (Draft.ofMembers ms) = .ok x := by
      intro write
      refine ih (fun l hl => ?_) (fun f hf hreq => ?_)
      · rw [List.mem_cons, List.mem_cons, hkeys l hl]
      · rw [List.mem_cons, List.mem_cons, hrequired f hf hreq]
    rw [byName_cons_eq_ok_iff, byName_cons_eq_ok_iff, hskip, hk]
    simp only [hwrite]

/-- A field that has been written does not come again. -/
theorem notMem_keys_of_byName (hk : k ∈ seen) (hfield : k ∈ s.names)
    (h : s.byName o true seen record (Draft.ofMembers ms) = .ok x) : k ∉ Entries.keys ms := by
  induction ms generalizing seen record with
  | nil => simp
  | cons m ms ih =>
    obtain ⟨l, v⟩ := m
    rw [Entries.keys_cons, List.mem_cons, not_or]
    rcases byName_cons_eq_ok_iff.mp h with ⟨hl, hrest⟩ | ⟨f, write, -, hl, -, hrest⟩
    · refine ⟨?_, ih hk hrest⟩
      rintro rfl
      exact field?_eq_none_iff.mp hl hfield
    · refine ⟨?_, ih (List.mem_cons_of_mem l hk) hrest⟩
      rintro rfl
      exact hl hk

/-! ### One step by position -/

variable {fields : List (Field α)} {vs : List Json}

/-- At the end of an array no required field is left. -/
theorem byPosition_nil_eq_ok_iff :
    byPosition o true fields record (Draft.ofItems []) = .ok x ↔
      (∀ f ∈ fields, f.isRequired = false) ∧ x = record := by
  rw [Draft.ofItems]
  cases fields with
  | nil =>
    rw [byPosition, if_pos rfl, Except.ok.injEq]
    simp only [List.not_mem_nil, false_implies, implies_true, true_and]
    exact eq_comm
  | cons f fields =>
    rw [byPosition, Bool.not_true, if_neg Bool.false_ne_true]
    cases hany : (f :: fields).any (·.isRequired) with
    | true =>
      obtain ⟨g, hg, hreq⟩ := List.any_eq_true.mp hany
      constructor
      · intro h
        cases h
      · rintro ⟨hall, -⟩
        rw [hall g hg] at hreq
        cases hreq
    | false =>
      have hall : ∀ g ∈ f :: fields, g.isRequired = false := by
        simpa only [Bool.not_eq_true] using List.any_eq_false.mp hany
      constructor
      · intro h
        cases h
        exact ⟨hall, rfl⟩
      · rintro ⟨-, rfl⟩
        rfl

/-- An item writes the next field. -/
theorem byPosition_cons_eq_ok_iff :
    byPosition o true (f :: fields) record (Draft.ofItems (v :: vs)) = .ok x ↔
      ∃ write, f.read o (.ofJson v) = .ok write ∧
        byPosition o true fields (write record) (Draft.ofItems vs) = .ok x := by
  rw [Draft.ofItems, byPosition]
  cases hread : f.read o (.ofJson v) with
  | error e => simp
  | ok write => simp

/-! ### Values in hand -/

theorem ofValue_object (s : Schema α) (ms : List (String × Json)) :
    ofValue s.decode (.object ms) = s.byName .tree true [] s.blank (Draft.ofMembers ms) := rfl

theorem ofValue_array (s : Schema α) (vs : List Json) :
    ofValue s.decode (.array vs) = byPosition .tree true s.fields s.blank (Draft.ofItems vs) := rfl

end Schema

/-! ### Requests -/

namespace RequestKind

/-- The names of the fields of a request, in the order that they have in an array. -/
def fieldNames : RequestKind → List String
  | nodeCreation => ["labels", "data"]
  | nodeSelector => ["labels", "query"]
  | nodeChange => ["labels", "query", "data"]
  | nodeSearch => ["labels", "query", "options"]
  | byIdentity => ["id"]
  | entityChange => ["id", "data"]
  | nodeProbe => ["id", "query", "labels"]
  | relationCreation => ["from", "type", "to", "data"]
  | relationChange => ["from", "type", "to", "anyDirection", "query", "data"]
  | relationSelector => ["from", "type", "to", "anyDirection", "query"]
  | relationSearch => ["from", "type", "to", "anyDirection", "query", "options"]
  | sourceSearch => ["to", "type", "query", "options"]
  | targetSearch => ["from", "type", "query", "options"]
  | neighbourSearch => ["anyNode", "type", "query", "options"]
  | relationProbe => ["id", "from", "type", "to", "anyDirection"]
  | rawQuery => ["query", "parameters"]

theorem names_schema (kind : RequestKind) : kind.schema.names = kind.fieldNames := by
  cases kind <;> rfl

theorem nodup_fieldNames (kind : RequestKind) : kind.fieldNames.Nodup := by
  cases kind <;> decide

end RequestKind

end PropertyGraph.Decode
