import PropertyGraph.Decode.Document
import PropertyGraph.Proofs.Decode.Kinds
import PropertyGraph.Proofs.Json.Nesting
import PropertyGraph.Proofs.Json.ReadBack

/-!
# Texts and values are decoded alike

A decoder finds in the text of a value what it finds in the value itself.  The reader of the text
gives the draft of the value back, and the only difference that is left is its origin, which bounds
the nesting and decides how an array that is too long is reported.  A decoder is uniform when its
results do not depend on the origin, as long as there is room for the value; the plain decoders are
uniform, and all ways to make decoders of others keep them so.

## Main definitions

* `Alike` — two attempts give the same value, or both fail.
* `Decoder.IsUniform` — a decoder whose results do not depend on the origin of a value.

## Main results

* `Schema.isUniform_decode` — a record is decoded uniformly when its fields are.
* `RequestKind.isUniform_fields` — the fields of all requests are.
* `ofText_text` — what a decoder takes from the text of a value.
* `text_and_value_alike` — **texts and values are decoded alike**.
-/

namespace PropertyGraph.Decode

open Json Text

variable {α β : Type}

/-! ### Attempts that come out alike -/

/-- Two attempts come out alike: with the same value, or each with a fault. -/
def Alike (x y : Except Fault α) : Prop :=
  ∀ a, x = .ok a ↔ y = .ok a

namespace Alike

variable {x y : Except Fault α}

theorem refl (x : Except Fault α) : Alike x x :=
  fun _ => Iff.rfl

theorem of_errors (e e' : Fault) : Alike (.error e : Except Fault α) (.error e') := by
  intro a
  constructor <;> intro h <;> cases h

theorem ok_or_error (h : Alike x y) :
    (∃ a, x = .ok a ∧ y = .ok a) ∨ ∃ e e', x = .error e ∧ y = .error e' := by
  cases x with
  | ok a => exact .inl ⟨a, rfl, (h a).mp rfl⟩
  | error e =>
    cases y with
    | ok a => cases (h a).mpr rfl
    | error e' => exact .inr ⟨e, e', rfl, rfl⟩

theorem bind (h : Alike x y) {f g : α → Except Fault β} (hfg : ∀ a, Alike (f a) (g a)) :
    Alike (x >>= f) (y >>= g) := by
  rcases h.ok_or_error with ⟨a, rfl, rfl⟩ | ⟨e, e', rfl, rfl⟩
  · exact hfg a
  · exact of_errors e e'

theorem map (h : Alike x y) (f : α → β) : Alike (x.map f) (y.map f) := by
  rcases h.ok_or_error with ⟨a, rfl, rfl⟩ | ⟨e, e', rfl, rfl⟩
  · exact refl _
  · exact of_errors e e'

end Alike

/-! ### Uniform decoders -/

/-- Whether a decoder takes the same from a value, wherever the value comes from. -/
def Decoder.IsUniform (decode : Decoder α) : Prop :=
  ∀ ⦃o : Origin⦄ ⦃v : Json⦄, o.Holds v.depth →
    Alike (decode o (.ofJson v)) (decode .tree (.ofJson v))

variable {decode : Decoder α}

/-- A decoder that does not look at the origin. -/
theorem isUniform_of_eq (h : ∀ o d, decode o d = decode .tree d) : decode.IsUniform := by
  intro o v _
  rw [h]
  exact .refl _

@[simp] theorem isUniform_bool : bool.IsUniform :=
  isUniform_of_eq fun _ d => by cases d <;> rfl

@[simp] theorem isUniform_string : string.IsUniform :=
  isUniform_of_eq fun _ d => by unfold string; split <;> rfl

@[simp] theorem isUniform_int64 : int64.IsUniform :=
  isUniform_of_eq fun _ d => by unfold int64; split <;> rfl

/-- The full value of a draft is the value that it comes from. -/
theorem whole_ofJson {decode : Json → Except Fault α} {o : Origin} {v : Json}
    (h : o.Holds v.depth) : whole decode o (.ofJson v) = decode v := by
  unfold whole
  rw [Draft.strict?_ofJson h]

theorem isUniform_whole (decode : Json → Except Fault α) : (whole decode).IsUniform := by
  intro o v h
  rw [whole_ofJson h, whole_ofJson (o := .tree) trivial]
  exact .refl _

@[simp] theorem isUniform_identity : identity.IsUniform :=
  isUniform_whole _

@[simp] theorem isUniform_identityIfAny : identityIfAny.IsUniform :=
  isUniform_whole _

@[simp] theorem isUniform_endpoint : endpoint.IsUniform :=
  isUniform_whole _

@[simp] theorem isUniform_sortOrder : sortOrder.IsUniform :=
  isUniform_whole _

theorem alike_mapM {item : Decoder α} (hitem : item.IsUniform) {o : Origin} :
    ∀ {vs : List Json}, o.Holds (itemsDepth vs) →
    Alike ((Draft.ofItems vs).mapM (item o)) ((Draft.ofItems vs).mapM (item .tree))
  | [], _ => .refl _
  | v :: vs, h => by
    rw [Draft.ofItems, List.mapM_cons, List.mapM_cons]
    exact (hitem h.left).bind fun _ => (alike_mapM hitem h.right).bind fun _ => .refl _

theorem isUniform_list {item : Decoder α} (hitem : item.IsUniform) :
    (list item).IsUniform := by
  intro o v h
  cases v with
  | array items =>
    obtain ⟨inner, hinside, hinner⟩ := Origin.Holds.inside h
    simp only [Draft.ofJson, list]
    rw [hinside]
    exact (alike_mapM hitem hinner).bind fun _ => .refl _
  | _ => exact .refl _

@[simp] theorem isUniform_properties : properties.IsUniform := by
  intro o v h
  cases v with
  | object members =>
    obtain ⟨inner, hinside, hinner⟩ := Origin.Holds.inside h
    simp only [Draft.ofJson, properties]
    rw [hinside, Origin.inside?, Option.bind_some, Option.bind_some,
      Draft.strictMembers?_ofMembers hinner, Draft.strictMembers?_ofMembers (o := .tree) trivial]
    exact .refl _
  | _ => exact .refl _

@[simp] theorem isUniform_optional (hdecode : decode.IsUniform) : (optional decode).IsUniform := by
  intro o v h
  cases v with
  | null => exact .refl _
  | _ => exact (hdecode h).map some

@[simp] theorem isUniform_orDefault [Inhabited α] (hdecode : decode.IsUniform) :
    (orDefault decode).IsUniform := by
  intro o v h
  cases v with
  | null => exact .refl _
  | _ => exact hdecode h

/-! ### Records -/

namespace Field

@[simp] theorem isUniform_of {name : String} {write : α → β → β} (hdecode : decode.IsUniform) :
    (Field.of name decode write).read.IsUniform :=
  fun _ _ h => (hdecode h).map write

@[simp] theorem isUniform_required {name : String} {write : α → β → β}
    (hdecode : decode.IsUniform) : (Field.required name decode write).read.IsUniform :=
  fun _ _ h => (hdecode h).map write

end Field

namespace Schema

variable {s : Schema α} {o : Origin}

theorem alike_byName (hs : ∀ f ∈ s.fields, f.read.IsUniform) :
    ∀ {ms : List (String × Json)} {seen : List String} {record : α}, o.Holds (membersDepth ms) →
    Alike (s.byName o true seen record (Draft.ofMembers ms))
      (s.byName .tree true seen record (Draft.ofMembers ms))
  | [], _, _, _ => .refl _
  | (k, v) :: ms, seen, record, h => by
    simp only [Draft.ofMembers, byName]
    cases hf : s.field? k with
    | none =>
      simp only [Draft.isComplete_ofJson, if_true]
      exact alike_byName hs h.right
    | some f =>
      have hread := hs f (List.mem_of_find?_eq_some hf) h.left
      simp only
      split
      · exact .refl _
      · rcases hread.ok_or_error with ⟨write, ho, htree⟩ | ⟨e, e', ho, htree⟩
        · rw [ho, htree]
          exact alike_byName hs h.right
        · rw [ho, htree]
          exact .of_errors e e'

/-- An array that is too long is a fault for every origin, if not the same one. -/
theorem alike_byPosition : ∀ {fields : List (Field α)}, (∀ f ∈ fields, f.read.IsUniform) →
    ∀ {vs : List Json} {record : α}, o.Holds (itemsDepth vs) →
    Alike (byPosition o true fields record (Draft.ofItems vs))
      (byPosition .tree true fields record (Draft.ofItems vs))
  | [], _, [], _, _ => .refl _
  | [], _, _ :: _, _, _ => .of_errors _ _
  | _ :: _, _, [], _, _ => .refl _
  | f :: fields, hs, v :: vs, record, h => by
    simp only [Draft.ofItems, byPosition]
    rcases (hs f (List.mem_cons_self ..) h.left).ok_or_error with
      ⟨write, ho, htree⟩ | ⟨e, e', ho, htree⟩
    · rw [ho, htree]
      exact alike_byPosition (fun g hg => hs g (List.mem_cons_of_mem f hg)) h.right
    · rw [ho, htree]
      exact .of_errors e e'

/-- **A record is decoded uniformly when its fields are**, whether they come by name or by
position. -/
theorem isUniform_decode (hs : ∀ f ∈ s.fields, f.read.IsUniform) : s.decode.IsUniform := by
  intro o v h
  cases v with
  | object members =>
    obtain ⟨inner, hinside, hinner⟩ := Origin.Holds.inside h
    simp only [Draft.ofJson, decode]
    rw [hinside]
    exact alike_byName hs hinner
  | array items =>
    obtain ⟨inner, hinside, hinner⟩ := Origin.Holds.inside h
    simp only [Draft.ofJson, decode]
    rw [hinside]
    exact alike_byPosition hs hinner
  | _ => exact .refl _

@[simp] theorem isUniform_paging : paging.decode.IsUniform :=
  isUniform_decode (by simp [paging])

variable {name : String}

@[simp] theorem isUniform_labelsField {write : List String → α → α} :
    (labelsField write).read.IsUniform :=
  Field.isUniform_of (isUniform_orDefault (isUniform_list isUniform_string))

@[simp] theorem isUniform_dataField {write : Properties → α → α} :
    (dataField write).read.IsUniform :=
  Field.isUniform_of (isUniform_orDefault isUniform_properties)

@[simp] theorem isUniform_filterField {write : Option Properties → α → α} :
    (filterField write).read.IsUniform :=
  Field.isUniform_of (isUniform_optional isUniform_properties)

@[simp] theorem isUniform_typeField {write : Option String → α → α} :
    (typeField write).read.IsUniform :=
  Field.isUniform_of (isUniform_optional isUniform_string)

@[simp] theorem isUniform_endpointField {write : Endpoint → α → α} :
    (endpointField name write).read.IsUniform :=
  Field.isUniform_of isUniform_endpoint

@[simp] theorem isUniform_eitherWayField {write : Bool → α → α} :
    (eitherWayField write).read.IsUniform :=
  Field.isUniform_of (isUniform_orDefault isUniform_bool)

@[simp] theorem isUniform_pagingField {write : Option Paging → α → α} :
    (pagingField write).read.IsUniform :=
  Field.isUniform_of (isUniform_optional isUniform_paging)

end Schema

/-- **The fields of all requests are decoded uniformly.** -/
theorem RequestKind.isUniform_fields (kind : RequestKind) :
    ∀ f ∈ kind.schema.fields, f.read.IsUniform := by
  cases kind <;>
  simp [schema, Schema.nodeCreation, Schema.nodeSelector, Schema.nodeChange, Schema.nodeSearch,
    Schema.byIdentity, Schema.entityChange, Schema.nodeProbe, Schema.relationCreation,
    Schema.relationChange, Schema.relationSelector, Schema.relationSearch, Schema.selectorFields,
    Schema.sourceSearch, Schema.targetSearch, Schema.neighbourSearch, Schema.endSearch,
    Schema.relationProbe, Schema.rawQuery]

/-! ### Texts -/

/-- What a decoder takes from the text of a value: the reader gives the draft of the value back, and
nothing follows it. -/
theorem ofText_text {v : Json} (h : v.fits64 = true) (decode : Decoder α) :
    ofText decode v.text = decode .document (.ofJson v) := by
  unfold ofText
  rw [read_text h]
  simp only
  cases decode .document (.ofJson v) <;> rfl

theorem alike_ofText {v : Json} (h : v.fits64 = true) (hdepth : v.depth < 128)
    (hdecode : decode.IsUniform) : Alike (ofText decode v.text) (ofValue decode v) := by
  rw [ofText_text h]
  exact hdecode (Nat.le_of_lt_succ hdepth)

/-- **Texts and values are decoded alike**: where numbers are integers of 64 bits and nesting is
less than 128 deep, a request, an identity or an endpoint is found in the text of a value exactly
when it is found in the value.  Objects may even repeat names. -/
theorem text_and_value_alike {v : Json} (h : v.fits64 = true) (hdepth : v.depth < 128) :
    (∀ (kind : RequestKind) (x : kind.Body),
      ofText kind.schema.decode v.text = .ok x ↔ ofValue kind.schema.decode v = .ok x) ∧
    (∀ id, ofText identity v.text = .ok id ↔ ofValue identity v = .ok id) ∧
    (∀ e, ofText endpoint v.text = .ok e ↔ ofValue endpoint v = .ok e) :=
  ⟨fun kind => alike_ofText h hdepth (Schema.isUniform_decode kind.isUniform_fields),
    alike_ofText h hdepth isUniform_identity, alike_ofText h hdepth isUniform_endpoint⟩

/-- A search for relationships, with a value for most of the shapes that a field may have. -/
def searchDocument : Json :=
  .object [
    ("from", .object [("id", .string " 7 "), ("labels", .null)]),
    ("to", .array [.array [.string "Person"]]),
    ("type", .string "said \"no\"\n"),
    ("anyDirection", .null),
    ("query", .object [("since", .number (.int (-0x8000000000000000))), ("tags", .array [])]),
    ("note", .number (.int 0xFFFFFFFFFFFFFFFF))]

/-- The search is found in its text. -/
theorem text_and_value_alike_searchDocument :
    searchDocument.fits64 = true ∧ searchDocument.depth < 128 ∧
    ofText Schema.relationSearch.decode searchDocument.text = .ok
      { relations := {
          source := .node ⟨7⟩
          relType := some "said \"no\"\n"
          target := .selected { labels := ["Person"], filter := none }
          eitherWay := false
          filter := some (.ofList [
            ("since", .number (.int (-0x8000000000000000))), ("tags", .array [])]) }
        paging := none } := by
  have hfits : searchDocument.fits64 = true := by decide
  have hdepth : searchDocument.depth < 128 := by decide
  obtain ⟨hrequests, -, -⟩ := text_and_value_alike hfits hdepth
  exact ⟨hfits, hdepth, (hrequests .relationSearch _).mpr rfl⟩

end PropertyGraph.Decode
