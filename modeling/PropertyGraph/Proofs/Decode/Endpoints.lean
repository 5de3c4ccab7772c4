import PropertyGraph.Proofs.Decode.Modes
import PropertyGraph.Proofs.Json.Names

/-!
# Endpoints are never read as wider than written

An endpoint that is read as any node, or as a selector without its conditions, would turn a change
of one thing into a change of many.  So each shape of an endpoint is described here on its own,
without the order in which the decoder tries them, and the decoder is shown to find a shape exactly
where the value has it: any node only in `null`, a node in every object with a sound identity, a
selector only in an object or an array that says nothing else.

## Main definitions

* `LabelsFrom`, `FilterFrom` — the labels and the filter that a value gives, if it may be absent.
* `NodeFrom` — a value that gives a node by identity.
* `SelectorFrom` — a value that gives a selector, by name or by position.
* `Spoiled` — members that no selector has.

## Main results

* `anchor?_eq_some_iff`, `selectorOfMembers?_eq_some_iff`, `selectorOfItems?_eq_some_iff` — what the
  shapes are found in.
* `endpoint_never_wider` — **an endpoint is read exactly as it is written**, or rejected.
-/

namespace PropertyGraph.Decode

open Json

/-! ### Shapes -/

/-- The labels that a value gives: an array of strings gives them, and none are given when it is
absent. -/
inductive LabelsFrom : Option Json → List String → Prop where
  /-- No value. -/
  | absent : LabelsFrom none []
  /-- An array of strings. -/
  | array (labels : List String) : LabelsFrom (some (.array (labels.map .string))) labels

/-- The filter that a value gives: an object gives its members, and there is none when the value is
`null` or absent. -/
inductive FilterFrom : Option Json → Option Properties → Prop where
  /-- No value. -/
  | absent : FilterFrom none none
  /-- The value `null`. -/
  | null : FilterFrom (some .null) none
  /-- An object. -/
  | object (filter : Properties) : FilterFrom (some filter.toJson) (some filter)

/-- An object that has an identity under `id`, whatever else is in it. -/
def NodeFrom (v : Json) (i : Identity) : Prop :=
  ∃ members w, v = .object members ∧ ("id", w) ∈ members ∧ ofValue identity w = .ok i

/-- An object of labels and a filter and nothing else, or an array of the two in this order. -/
def SelectorFrom (v : Json) (s : NodeSelector) : Prop :=
  (∃ members, v = .object members ∧
    (∀ name ∈ Entries.keys members, name = "labels" ∨ name = "query") ∧
    LabelsFrom (Entries.get? "labels" members) s.labels ∧
    FilterFrom (Entries.get? "query" members) s.filter) ∨
  ∃ items, v = .array items ∧ items.length ≤ 2 ∧
    LabelsFrom items[0]? s.labels ∧ FilterFrom items[1]? s.filter

/-- Members that no selector has: a name that is not one of a selector, or labels that are
`null`. -/
def Spoiled (members : List (String × Json)) : Prop :=
  (∃ name ∈ Entries.keys members, name ≠ "labels" ∧ name ≠ "query") ∨ ("labels", .null) ∈ members

/-! ### Identities -/

theorem ofValue_whole {α : Type} (decode : Json → Except Fault α) (v : Json) :
    ofValue (whole decode) v = decode v :=
  whole_ofJson (o := .tree) trivial

theorem ofValue_identity (v : Json) : ofValue identity v = identityOf v :=
  ofValue_whole identityOf v

theorem ofValue_endpoint (v : Json) : ofValue endpoint v = endpointOf v :=
  ofValue_whole endpointOf v

variable {members : List (String × Json)} {name : String} {v w : Json}

theorem single?_eq_some_iff (h : (Entries.keys members).Nodup) :
    single? name members = some w ↔ (name, w) ∈ members := by
  unfold single?
  rw [← Entries.get?_eq_some_iff h]
  by_cases hname : name ∈ Entries.keys members
  · rw [h.count, if_pos hname, if_pos rfl]
  · have hnone := Entries.get?_eq_none_iff.mpr hname
    rw [hnone]
    split <;> rfl

theorem anchor?_eq_some_iff (h : (Entries.keys members).Nodup) {i : Identity} :
    anchor? members = some i ↔ NodeFrom (.object members) i := by
  unfold anchor? NodeFrom
  constructor
  · intro hanchor
    obtain ⟨w, hw, hi⟩ := Option.bind_eq_some_iff.mp hanchor
    refine ⟨members, w, rfl, (single?_eq_some_iff h).mp hw, ?_⟩
    rw [ofValue_identity]
    cases hid : identityOf w with
    | ok j =>
      rw [hid] at hi
      cases hi
      rfl
    | error e =>
      rw [hid] at hi
      cases hi
  · rintro ⟨members', w, hv, hw, hi⟩
    cases hv
    rw [ofValue_identity] at hi
    rw [(single?_eq_some_iff h).mpr hw, Option.bind_some, hi]
    rfl

/-! ### Selectors -/

theorem mapM_string_eq_some_iff {items : List Json} {labels : List String} :
    (items.mapM fun | .string s => some s | _ => none) = some labels ↔
      items = labels.map Json.string := by
  induction items generalizing labels with
  | nil => cases labels <;> simp
  | cons item rest ih =>
    rw [List.mapM_cons]
    cases item with
    | string s =>
      show Option.bind (rest.mapM _) (fun ls => some (s :: ls)) = some labels ↔ _
      rw [Option.bind_eq_some_iff]
      constructor
      · rintro ⟨ls, hls, hsome⟩
        cases hsome
        rw [ih.mp hls, List.map_cons]
      · intro h
        cases labels with
        | nil => cases h
        | cons label labels =>
          obtain ⟨hs, hrest⟩ := List.cons.inj h
          cases hs
          exact ⟨labels, ih.mpr hrest, rfl⟩
    | _ =>
      constructor
      · intro h
        cases h
      · intro h
        cases labels <;> cases h

theorem strings?_eq_some_iff {labels : List String} :
    strings? v = some labels ↔ LabelsFrom (some v) labels := by
  constructor
  · intro h
    cases v with
    | array items =>
      rw [mapM_string_eq_some_iff.mp h]
      exact .array labels
    | _ => cases h
  · rintro ⟨⟩
    exact mapM_string_eq_some_iff.mpr rfl

theorem filter?_eq_some_iff (h : v.namesDistinct = true) {filter : Option Properties} :
    filter? v = some filter ↔ FilterFrom (some v) filter := by
  have hobject : ∀ {members : List (String × Json)}, (Json.object members).namesDistinct = true →
      (Properties.ofList (collapseMembers members)).toJson = .object members := by
    intro members hmembers
    exact collapse_of_namesDistinct hmembers
  constructor
  · intro hfilter
    cases v with
    | null =>
      cases hfilter
      exact .null
    | object members =>
      cases hfilter
      rw [← hobject h]
      exact .object _
    | _ => cases hfilter
  · rintro (⟨⟩ | ⟨⟩ | filter)
    · rfl
    · have hsame : Properties.ofList (collapseMembers filter.entries) = filter :=
        Properties.ext (Json.object.inj (hobject h))
      exact congrArg (fun f => some (some f)) hsame

theorem nodeSelector?_eq_some_iff {labels filter : Option Json}
    (h : ∀ v ∈ filter, v.namesDistinct = true) {s : NodeSelector} :
    nodeSelector? labels filter = some s ↔
      LabelsFrom labels s.labels ∧ FilterFrom filter s.filter := by
  have hlabels : ∀ ls, labels.elim (some []) strings? = some ls ↔ LabelsFrom labels ls := by
    intro ls
    cases labels with
    | none => exact ⟨by rintro ⟨⟩; exact .absent, by rintro ⟨⟩; rfl⟩
    | some v => exact strings?_eq_some_iff
  have hfilter : ∀ f, filter.elim (some none) filter? = some f ↔ FilterFrom filter f := by
    intro f
    cases filter with
    | none => exact ⟨by rintro ⟨⟩; exact .absent, by rintro ⟨⟩; rfl⟩
    | some v => exact filter?_eq_some_iff (h v rfl)
  unfold nodeSelector?
  constructor
  · intro hs
    obtain ⟨ls, hls, hs⟩ := Option.bind_eq_some_iff.mp hs
    obtain ⟨f, hf, hs⟩ := Option.bind_eq_some_iff.mp hs
    cases hs
    exact ⟨(hlabels ls).mp hls, (hfilter f).mp hf⟩
  · rintro ⟨hls, hf⟩
    rw [(hlabels _).mpr hls, (hfilter _).mpr hf]
    rfl

theorem selectorOfMembers?_eq_some_iff (h : (Json.object members).namesDistinct = true)
    {s : NodeSelector} :
    selectorOfMembers? members = some s ↔ SelectorFrom (.object members) s := by
  obtain ⟨hnodup, hmembers⟩ := namesDistinct_object.mp h
  have hnames : members.all (fun m => m.1 = "labels" || m.1 = "query") = true ↔
      ∀ name ∈ Entries.keys members, name = "labels" ∨ name = "query" := by
    simp [Entries.keys]
  have hfilter : ∀ v ∈ Entries.get? "query" members, v.namesDistinct = true :=
    fun v hv => namesDistinct_of_mem_members hmembers (Entries.mem_of_get? hv)
  unfold selectorOfMembers?
  constructor
  · intro hs
    split at hs
    · next hif =>
      obtain ⟨hlabels, hquery⟩ := (nodeSelector?_eq_some_iff hfilter).mp hs
      exact .inl ⟨members, rfl, hnames.mp hif.1, hlabels, hquery⟩
    · cases hs
  · rintro (⟨members', hv, hkeys, hlabels, hquery⟩ | ⟨items, hv, -⟩)
    · cases hv
      rw [if_pos ⟨hnames.mpr hkeys, hnodup⟩]
      exact (nodeSelector?_eq_some_iff hfilter).mpr ⟨hlabels, hquery⟩
    · cases hv

/-- The items of a selector are its labels and its filter, as far as they are given. -/
theorem selectorOfItems?_eq (items : List Json) :
    selectorOfItems? items
      = if items.length ≤ 2 then nodeSelector? items[0]? items[1]? else none := by
  match items with
  | [] => rfl
  | [_] => rfl
  | [_, _] => rfl
  | _ :: _ :: _ :: _ => simp [selectorOfItems?]

theorem selectorOfItems?_eq_some_iff {items : List Json}
    (h : (Json.array items).namesDistinct = true) {s : NodeSelector} :
    selectorOfItems? items = some s ↔ SelectorFrom (.array items) s := by
  have hfilter : ∀ v ∈ items[1]?, v.namesDistinct = true :=
    fun v hv => namesDistinct_of_mem_items h (List.mem_of_getElem? hv)
  rw [selectorOfItems?_eq]
  constructor
  · intro hs
    split at hs
    · next hlength =>
      obtain ⟨hlabels, hquery⟩ := (nodeSelector?_eq_some_iff hfilter).mp hs
      exact .inr ⟨items, rfl, hlength, hlabels, hquery⟩
    · cases hs
  · rintro (⟨members, hv, -⟩ | ⟨items', hv, hlength, hlabels, hquery⟩)
    · cases hv
    · cases hv
      rw [if_pos hlength]
      exact (nodeSelector?_eq_some_iff hfilter).mpr ⟨hlabels, hquery⟩

theorem not_selectorFrom_of_spoiled (h : (Entries.keys members).Nodup) (hspoiled : Spoiled members)
    (s : NodeSelector) : ¬SelectorFrom (.object members) s := by
  rintro (⟨members', hv, hnames, hlabels, -⟩ | ⟨items, hv, -⟩)
  · cases hv
    rcases hspoiled with ⟨name, hname, hne, hne'⟩ | hnull
    · rcases hnames name hname with heq | heq
      · exact hne heq
      · exact hne' heq
    · rw [(Entries.get?_eq_some_iff h).mpr hnull] at hlabels
      cases hlabels
  · cases hv

theorem spoiled_of_mem_id (hw : ("id", w) ∈ members) : Spoiled members :=
  .inl ⟨"id", Entries.mem_keys_of_mem hw, by decide, by decide⟩

/-- A selector has no identity, so it does not matter which of the two shapes is tried first. -/
theorem anchor?_eq_none_of_selectorFrom (h : (Entries.keys members).Nodup) {s : NodeSelector}
    (hs : SelectorFrom (.object members) s) : anchor? members = none := by
  cases hanchor : anchor? members with
  | none => rfl
  | some i =>
    obtain ⟨members', w, hv, hw, -⟩ := (anchor?_eq_some_iff h).mp hanchor
    cases hv
    exact absurd hs (not_selectorFrom_of_spoiled h (spoiled_of_mem_id hw) s)

/-! ### Endpoints -/

theorem endpoint_eq_any_iff (v : Json) : ofValue endpoint v = .ok .any ↔ v = .null := by
  rw [ofValue_endpoint]
  cases v with
  | null => exact ⟨fun _ => rfl, fun _ => rfl⟩
  | object members =>
    simp only [endpointOf]
    cases anchor? members <;> cases selectorOfMembers? members <;> simp
  | array items =>
    simp only [endpointOf]
    cases selectorOfItems? items <;> simp
  | _ => simp [endpointOf]

theorem endpoint_eq_node_iff (h : v.namesDistinct = true) (i : Identity) :
    ofValue endpoint v = .ok (.node i) ↔ NodeFrom v i := by
  rw [ofValue_endpoint]
  cases v with
  | object members =>
    rw [← anchor?_eq_some_iff (namesDistinct_object.mp h).1]
    simp only [endpointOf]
    cases anchor? members <;> cases selectorOfMembers? members <;> simp
  | array items =>
    simp only [endpointOf]
    cases selectorOfItems? items <;> simp [NodeFrom]
  | _ => simp [endpointOf, NodeFrom]

theorem endpoint_eq_selected_iff (h : v.namesDistinct = true) (s : NodeSelector) :
    ofValue endpoint v = .ok (.selected s) ↔ SelectorFrom v s := by
  rw [ofValue_endpoint]
  cases v with
  | object members =>
    have hselector := selectorOfMembers?_eq_some_iff h (s := s)
    have hanchor := anchor?_eq_none_of_selectorFrom (namesDistinct_object.mp h).1 (s := s)
    simp only [endpointOf]
    constructor
    · intro hs
      split at hs
      · cases hs
      · next hnodes =>
        cases hs
        exact hselector.mp hnodes
      · cases hs
    · intro hs
      rw [hanchor hs, hselector.mpr hs]
  | array items =>
    rw [← selectorOfItems?_eq_some_iff h]
    simp only [endpointOf]
    cases selectorOfItems? items <;> simp
  | _ => simp [endpointOf, SelectorFrom]

/-- There is one fault only. -/
theorem endpoint_eq_unrecognized (v : Json) (h : ∀ e, ofValue endpoint v ≠ .ok e) :
    ofValue endpoint v = .error (.unrecognized .endpoint) := by
  rw [ofValue_endpoint] at h ⊢
  cases v with
  | null => exact absurd rfl (h .any)
  | object members =>
    simp only [endpointOf] at h ⊢
    split
    · next i hi => exact absurd (by rw [hi]) (h (.node i))
    · next s hi hs => exact absurd (by rw [hi, hs]) (h (.selected s))
    · rfl
  | array items =>
    simp only [endpointOf] at h ⊢
    split
    · next s hs => exact absurd (by rw [hs]) (h (.selected s))
    · rfl
  | _ => rfl

theorem endpoint_eq_unrecognized_of_not (h : v.namesDistinct = true) (hnull : v ≠ .null)
    (hnode : ∀ i, ¬NodeFrom v i) (hselector : ∀ s, ¬SelectorFrom v s) :
    ofValue endpoint v = .error (.unrecognized .endpoint) := by
  refine endpoint_eq_unrecognized v fun e he => ?_
  cases e with
  | any => exact hnull ((endpoint_eq_any_iff v).mp he)
  | node i => exact hnode i ((endpoint_eq_node_iff h i).mp he)
  | selected s => exact hselector s ((endpoint_eq_selected_iff h s).mp he)

/-- No other member stands in for an identity that is none. -/
theorem not_nodeFrom_of_mem (h : (Entries.keys members).Nodup) (hw : ("id", w) ∈ members)
    (hid : ∀ i, ofValue identity w ≠ .ok i) (i : Identity) : ¬NodeFrom (.object members) i := by
  rintro ⟨members', w', hv, hw', hi⟩
  cases hv
  have hsame : some w = some w' := by
    rw [← (Entries.get?_eq_some_iff h).mpr hw, ← (Entries.get?_eq_some_iff h).mpr hw']
  cases hsame
  exact hid i hi

/-- **An endpoint is read exactly as it is written, or rejected.**  Any node is read from `null`
alone, a node from every object that has an identity under `id`, and a selector from an object or an
array that is one and nothing else.  So an object is rejected when its `id` is no identity, `null`
included, and when a name is misspelt or the labels are `null` and there is no identity. -/
theorem endpoint_never_wider (h : v.namesDistinct = true) :
    (ofValue endpoint v = .ok .any ↔ v = .null) ∧
    (∀ i, ofValue endpoint v = .ok (.node i) ↔ NodeFrom v i) ∧
    (∀ s, ofValue endpoint v = .ok (.selected s) ↔ SelectorFrom v s) ∧
    (v ≠ .null → (∀ i, ¬NodeFrom v i) → (∀ s, ¬SelectorFrom v s) →
      ofValue endpoint v = .error (.unrecognized .endpoint)) ∧
    ∀ members, v = .object members →
      (∀ w, ("id", w) ∈ members → (w = .null ∨ ∀ i, ofValue identity w ≠ .ok i) →
        ofValue endpoint v = .error (.unrecognized .endpoint)) ∧
      (Spoiled members → (∀ i, ¬NodeFrom v i) →
        ofValue endpoint v = .error (.unrecognized .endpoint)) := by
  refine ⟨endpoint_eq_any_iff v, endpoint_eq_node_iff h, endpoint_eq_selected_iff h,
    endpoint_eq_unrecognized_of_not h, ?_⟩
  rintro members rfl
  have hnodup := (namesDistinct_object.mp h).1
  have hspoiled : Spoiled members → (∀ i, ¬NodeFrom (.object members) i) →
      ofValue endpoint (.object members) = .error (.unrecognized .endpoint) := fun hs hnode =>
    endpoint_eq_unrecognized_of_not h (by rintro ⟨⟩) hnode (not_selectorFrom_of_spoiled hnodup hs)
  refine ⟨fun w hw hid => hspoiled (spoiled_of_mem_id hw) (not_nodeFrom_of_mem hnodup hw ?_),
    hspoiled⟩
  rcases hid with rfl | hid
  · rintro i ⟨⟩
  · exact hid

/-- Labels next to an identity that is `null`. -/
def labelledNull : Json :=
  .object [("id", .null), ("labels", .array [.string "Person"])]

/-- Labels do not make up for an identity that is `null`. -/
theorem endpoint_never_wider_labelledNull :
    labelledNull.namesDistinct = true ∧
    ofValue endpoint labelledNull = .error (.unrecognized .endpoint) := by
  have hnames : labelledNull.namesDistinct = true := by decide
  obtain ⟨-, -, -, -, hobject⟩ := endpoint_never_wider hnames
  exact ⟨hnames, (hobject _ rfl).1 .null (by simp) (.inl rfl)⟩

end PropertyGraph.Decode
