import Mathlib.Data.List.Forall2
import PropertyGraph.Proofs.Cypher.Sorting
import PropertyGraph.Proofs.Decode.Endpoints
import PropertyGraph.Proofs.Json.Induction

/-!
# The grammar of a sort order

A sort order is written as the name of a property, as an object with a property and a direction, or
as an array of sort orders, to any depth.  Nothing else is read as one: an array is always a list
and never a rule, and one item that is no sort order spoils all arrays around it.

## Main definitions

* `RuleFrom` — an object that gives a property and a direction.
* `OrderFrom` — a value that is written as a sort order.
* `Nested` — a value that stands in arrays, at any depth.
* `SortOrder.toJson` — one way to write a sort order.

## Main results

* `sortOrder?_eq_some_iff` — what is read is what is written.
* `Nested.exists_sortOrder?_eq` — what stands in a sort order is one.
* `sortOrder_eq_bare_iff`, `sortOrder_eq_directed_iff`, `sortOrder_eq_sequence_iff` — what each kind
  of sort order comes from.
* `sortOrder_exact` — **a sort order is read from its grammar and from nothing else**.
-/

namespace PropertyGraph

open Json

/-! ### Writing -/

mutual

/-- A sort order as JSON; a rule always says its direction. -/
def SortOrder.toJson : SortOrder → Json
  | .bare name => .string name
  | .directed name descending => .object [("property", .string name), ("desc", .bool descending)]
  | .sequence orders => .array (ordersToJson orders)

/-- Each order as JSON. -/
def SortOrder.ordersToJson : List SortOrder → List Json
  | [] => []
  | order :: rest => SortOrder.toJson order :: ordersToJson rest

end

theorem SortOrder.ordersToJson_eq_map (orders : List SortOrder) :
    ordersToJson orders = orders.map toJson := by
  induction orders with
  | nil => rw [ordersToJson, List.map_nil]
  | cons order rest ih => rw [ordersToJson, List.map_cons, ih]

namespace Decode

/-- An object that gives a property and a direction, which is rising when it is absent; other
members do not matter. -/
def RuleFrom (v : Json) (name : String) (descending : Bool) : Prop :=
  ∃ members, v = .object members ∧ ("property", .string name) ∈ members ∧
    (("desc", .bool descending) ∈ members ∨
      "desc" ∉ Entries.keys members ∧ descending = false)

/-- A value that is written as a sort order. -/
inductive OrderFrom : Json → SortOrder → Prop where
  /-- The name of a property. -/
  | bare (name : String) : OrderFrom (.string name) (.bare name)
  /-- An object with a property and a direction. -/
  | directed {v : Json} {name : String} {descending : Bool} (h : RuleFrom v name descending) :
    OrderFrom v (.directed name descending)
  /-- An array whose items are sort orders, in their order. -/
  | sequence {items : List Json} {orders : List SortOrder}
    (h : List.Forall₂ OrderFrom items orders) : OrderFrom (.array items) (.sequence orders)

/-- A value that stands in arrays, at any depth. -/
inductive Nested (w : Json) : Json → Prop where
  /-- The value on its own. -/
  | here : Nested w w
  /-- The value in an item of an array. -/
  | item {v : Json} {items : List Json} (hv : v ∈ items) (h : Nested w v) : Nested w (.array items)

variable {v w : Json} {members : List (String × Json)} {items : List Json} {order : SortOrder}
  {orders : List SortOrder}

theorem orderFrom_toJson (order : SortOrder) : OrderFrom order.toJson order := by
  induction order using SortOrder.induct with
  | bare name =>
    rw [SortOrder.toJson]
    exact .bare name
  | directed name descending =>
    rw [SortOrder.toJson]
    exact .directed ⟨_, rfl, List.mem_cons_self .., .inl (by simp)⟩
  | sequence orders ih =>
    rw [SortOrder.toJson, SortOrder.ordersToJson_eq_map]
    refine .sequence ?_
    rw [List.forall₂_map_left_iff, List.forall₂_same]
    exact ih

theorem namesDistinct_toJson (order : SortOrder) : order.toJson.namesDistinct = true := by
  induction order using SortOrder.induct with
  | bare name =>
    rw [SortOrder.toJson]
    rfl
  | directed name descending =>
    rw [SortOrder.toJson]
    exact namesDistinct_object.mpr ⟨by simp [Entries.keys], rfl⟩
  | sequence orders ih =>
    rw [SortOrder.toJson, SortOrder.ordersToJson_eq_map, namesDistinct, itemsNamesDistinct_iff]
    exact List.forall_mem_map.mpr ih

/-! ### Lists side by side -/

theorem forall₂_congr_mem {α β : Type} {R S : α → β → Prop} {xs : List α} {ys : List β}
    (h : ∀ x ∈ xs, ∀ y, R x y ↔ S x y) : List.Forall₂ R xs ys ↔ List.Forall₂ S xs ys := by
  induction xs generalizing ys with
  | nil => rw [List.forall₂_nil_left_iff, List.forall₂_nil_left_iff]
  | cons x rest ih =>
    obtain ⟨hfirst, hrest⟩ := List.forall_mem_cons.mp h
    simp only [List.forall₂_cons_left_iff, hfirst, ih hrest]

theorem exists_of_mem_left {α β : Type} {R : α → β → Prop} {xs : List α} {ys : List β}
    (h : List.Forall₂ R xs ys) {x : α} (hx : x ∈ xs) : ∃ y, R x y := by
  induction h with
  | nil => cases hx
  | @cons first y rest others hfirst _ ih =>
    rcases List.mem_cons.mp hx with rfl | hrest
    · exact ⟨y, hfirst⟩
    · exact ih hrest

/-! ### Reading -/

theorem ofValue_sortOrder (v : Json) : ofValue sortOrder v = sortOrderOf v :=
  ofValue_whole sortOrderOf v

theorem sortRule?_eq_some_iff (h : (Entries.keys members).Nodup) :
    sortRule? members = some order ↔ ∃ name descending,
      order = .directed name descending ∧ RuleFrom (.object members) name descending := by
  unfold sortRule?
  constructor
  · intro hrule
    split at hrule
    · next name hproperty =>
      have hname := (single?_eq_some_iff h).mp hproperty
      split at hrule
      · split at hrule
        · next descending hdesc =>
          cases hrule
          have hdirection := (single?_eq_some_iff h).mp hdesc
          exact ⟨name, descending, rfl, members, rfl, hname, .inl hdirection⟩
        · cases hrule
      · next habsent =>
        cases hrule
        exact ⟨name, false, rfl, members, rfl, hname, .inr ⟨habsent, rfl⟩⟩
    · cases hrule
  · rintro ⟨name, descending, rfl, _, hv, hname, hdirection⟩
    cases hv
    rw [(single?_eq_some_iff h).mpr hname]
    rcases hdirection with hdesc | ⟨habsent, rfl⟩
    · simp only [if_pos (Entries.mem_keys_of_mem hdesc), (single?_eq_some_iff h).mpr hdesc]
    · simp only [if_neg habsent]

/-- A list is read item by item. -/
theorem sortOrders?_eq_some_iff :
    sortOrders? items = some orders ↔
      List.Forall₂ (fun v order => sortOrder? v = some order) items orders := by
  induction items generalizing orders with
  | nil =>
    rw [sortOrders?, List.forall₂_nil_left_iff]
    exact ⟨fun h => (Option.some.inj h).symm, fun h => h ▸ rfl⟩
  | cons v rest ih =>
    rw [sortOrders?, List.forall₂_cons_left_iff]
    constructor
    · intro h
      split at h
      · next order others hv hrest =>
        cases h
        exact ⟨order, others, hv, ih.mp hrest, rfl⟩
      · cases h
    · rintro ⟨order, others, hv, hrest, rfl⟩
      rw [hv, ih.mpr hrest]

theorem sortOrder?_array (items : List Json) (order : SortOrder) :
    sortOrder? (.array items) = some order ↔ ∃ orders, order = .sequence orders ∧
      List.Forall₂ (fun v order => sortOrder? v = some order) items orders := by
  rw [sortOrder?, Option.map_eq_some_iff]
  constructor
  · rintro ⟨orders, horders, rfl⟩
    exact ⟨orders, rfl, sortOrders?_eq_some_iff.mp horders⟩
  · rintro ⟨orders, rfl, horders⟩
    exact ⟨orders, sortOrders?_eq_some_iff.mpr horders, rfl⟩

/-- **What is read is what is written.** -/
theorem sortOrder?_eq_some_iff (h : v.namesDistinct = true) :
    sortOrder? v = some order ↔ OrderFrom v order := by
  induction v using Json.induct generalizing order with
  | string name =>
    rw [sortOrder?]
    constructor
    · rintro ⟨⟩
      exact .bare name
    · rintro (⟨⟩ | ⟨_, hv, -⟩)
      · rfl
      · cases hv
  | array items ih =>
    rw [namesDistinct, itemsNamesDistinct_iff] at h
    rw [sortOrder?_array]
    constructor
    · rintro ⟨orders, rfl, horders⟩
      exact .sequence ((forall₂_congr_mem fun v hv order => ih v hv (h v hv)).mp horders)
    · rintro (⟨⟩ | ⟨_, hv, -⟩ | horders)
      · cases hv
      · exact ⟨_, rfl, (forall₂_congr_mem fun v hv order => ih v hv (h v hv)).mpr horders⟩
  | object members =>
    rw [sortOrder?, sortRule?_eq_some_iff (namesDistinct_object.mp h).1]
    constructor
    · rintro ⟨name, descending, rfl, hrule⟩
      exact .directed hrule
    · rintro (⟨⟩ | hrule)
      exact ⟨_, _, rfl, hrule⟩
  | _ =>
    constructor
    · intro hsome
      simp [sortOrder?] at hsome
    · rintro (⟨⟩ | ⟨_, hv, -⟩)
      cases hv

/-- **What stands in a sort order is one.** -/
theorem Nested.exists_sortOrder?_eq (h : Nested w v) {order : SortOrder}
    (hv : sortOrder? v = some order) : ∃ inner, sortOrder? w = some inner := by
  induction h generalizing order with
  | here => exact ⟨order, hv⟩
  | item hmem _ ih =>
    obtain ⟨orders, rfl, horders⟩ := (sortOrder?_array _ order).mp hv
    obtain ⟨inner, hinner⟩ := exists_of_mem_left horders hmem
    exact ih hinner

theorem ofValue_sortOrder_eq_ok_iff :
    ofValue sortOrder v = .ok order ↔ sortOrder? v = some order := by
  rw [ofValue_sortOrder, sortOrderOf]
  cases sortOrder? v <;> simp

/-- There is one fault only. -/
theorem ofValue_sortOrder_eq_error (h : ∀ order, sortOrder? v ≠ some order) :
    ofValue sortOrder v = .error (.unrecognized .sortOrder) := by
  rw [ofValue_sortOrder, sortOrderOf, Option.eq_none_iff_forall_ne_some.mpr h]

theorem sortOrder_eq_ok_iff (h : v.namesDistinct = true) (order : SortOrder) :
    ofValue sortOrder v = .ok order ↔ OrderFrom v order :=
  ofValue_sortOrder_eq_ok_iff.trans (sortOrder?_eq_some_iff h)

theorem sortOrder_eq_bare_iff (h : v.namesDistinct = true) (name : String) :
    ofValue sortOrder v = .ok (.bare name) ↔ v = .string name := by
  rw [sortOrder_eq_ok_iff h]
  constructor
  · rintro ⟨⟩
    rfl
  · rintro rfl
    exact .bare name

theorem sortOrder_eq_directed_iff (h : v.namesDistinct = true) (name : String)
    (descending : Bool) :
    ofValue sortOrder v = .ok (.directed name descending) ↔ RuleFrom v name descending := by
  rw [sortOrder_eq_ok_iff h]
  constructor
  · rintro (⟨⟩ | hrule)
    exact hrule
  · exact .directed

theorem sortOrder_eq_sequence_iff (h : v.namesDistinct = true) (orders : List SortOrder) :
    ofValue sortOrder v = .ok (.sequence orders) ↔ ∃ items, v = .array items ∧
      List.Forall₂ (fun w order => ofValue sortOrder w = .ok order) items orders := by
  simp only [ofValue_sortOrder_eq_ok_iff]
  constructor
  · intro hv
    -- only an array is written as a list
    cases (sortOrder?_eq_some_iff h).mp hv with
    | @sequence items =>
      obtain ⟨_, hsame, horders⟩ := (sortOrder?_array items _).mp hv
      cases hsame
      exact ⟨items, rfl, horders⟩
  · rintro ⟨items, rfl, horders⟩
    exact (sortOrder?_array items _).mpr ⟨orders, rfl, horders⟩

/-- A value inside of arrays that is no sort order spoils them all. -/
theorem Nested.ofValue_eq_error (h : Nested w v) (hw : ∀ order, ofValue sortOrder w ≠ .ok order) :
    ofValue sortOrder v = .error (.unrecognized .sortOrder) := by
  refine ofValue_sortOrder_eq_error fun order hv => ?_
  obtain ⟨inner, hinner⟩ := h.exists_sortOrder?_eq hv
  exact hw inner (ofValue_sortOrder_eq_ok_iff.mpr hinner)

/-- A value that is read by the grammar of sort orders. -/
structure ReadByGrammar (v : Json) : Prop where
  /-- It is read as what it is written as. -/
  whole : ∀ order, ofValue sortOrder v = .ok order ↔ OrderFrom v order
  /-- A property comes from its name alone. -/
  bare : ∀ name, ofValue sortOrder v = .ok (.bare name) ↔ v = .string name
  /-- A rule comes from an object. -/
  directed : ∀ name descending,
    ofValue sortOrder v = .ok (.directed name descending) ↔ RuleFrom v name descending
  /-- A list comes from an array, whose items are read one by one. -/
  sequence : ∀ orders, ofValue sortOrder v = .ok (.sequence orders) ↔ ∃ items,
    v = .array items ∧ List.Forall₂ (fun w order => ofValue sortOrder w = .ok order) items orders
  /-- All else is rejected. -/
  other : (∀ order, ¬OrderFrom v order) → ofValue sortOrder v = .error (.unrecognized .sortOrder)
  /-- So is an array with an item, at any depth, that is no sort order. -/
  spoiled : ∀ w, Nested w v → (∀ order, ofValue sortOrder w ≠ .ok order) →
    ofValue sortOrder v = .error (.unrecognized .sortOrder)

/-- **A sort order is read from its grammar and from nothing else**, and each one can be written so
that it is read again. -/
theorem sortOrder_exact :
    (∀ v : Json, v.namesDistinct = true → ReadByGrammar v) ∧
    ∀ order : SortOrder, order.toJson.namesDistinct = true ∧ OrderFrom order.toJson order ∧
      ofValue sortOrder order.toJson = .ok order := by
  constructor
  · intro v h
    refine ⟨sortOrder_eq_ok_iff h, sortOrder_eq_bare_iff h, sortOrder_eq_directed_iff h,
      sortOrder_eq_sequence_iff h, fun hnot => ?_, fun w hw => hw.ofValue_eq_error⟩
    exact ofValue_sortOrder_eq_error fun order hv => hnot order ((sortOrder?_eq_some_iff h).mp hv)
  · intro order
    have hnames := namesDistinct_toJson order
    have hfrom := orderFrom_toJson order
    exact ⟨hnames, hfrom, (sortOrder_eq_ok_iff hnames order).mpr hfrom⟩

/-- A rule whose direction is `null`. -/
def undirectedRule : Json :=
  .object [("property", .string "b"), ("desc", .null)]

/-- A direction that is `null` spoils the arrays around its rule, and a name with a direction in an
array is no rule. -/
theorem sortOrder_exact_undirectedRule :
    (Json.array [.string "a", .array [undirectedRule]]).namesDistinct = true ∧
    ofValue sortOrder (.array [.string "a", .array [undirectedRule]])
      = .error (.unrecognized .sortOrder) ∧
    ofValue sortOrder (.array [.string "b", .bool true]) = .error (.unrecognized .sortOrder) := by
  obtain ⟨hread, -⟩ := sortOrder_exact
  have hrule : ∀ order, ofValue sortOrder undirectedRule ≠ .ok order := by
    intro order hok
    obtain ⟨⟩ | ⟨_, hv, -, hdirection⟩ := ((hread undirectedRule (by decide)).whole order).mp hok
    cases hv
    simp [Entries.keys] at hdirection
  have hflag : ∀ order, ofValue sortOrder (.bool true) ≠ .ok order := by
    intro order hok
    obtain ⟨⟩ | ⟨_, hv, -⟩ := ((hread (.bool true) rfl).whole order).mp hok
    cases hv
  have hnames : (Json.array [.string "a", .array [undirectedRule]]).namesDistinct = true := by
    decide
  refine ⟨hnames, (hread _ hnames).spoiled undirectedRule ?_ hrule,
    (hread _ (by decide)).spoiled (.bool true) ?_ hflag⟩
  · exact .item (by simp) (.item (List.mem_singleton_self _) .here)
  · exact .item (by simp) .here

end Decode

end PropertyGraph
