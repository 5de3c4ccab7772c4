import PropertyGraph.Proofs.Cypher.Literals
import PropertyGraph.Proofs.Cypher.Page

/-!
# Sorting by leaves

A sort order may nest its lists as it likes: what is written is one clause over its leaves from left
to right.  Two orders have the same leaves exactly when one becomes the other by wrapping an order
in a list, by taking the items of a list out of it, and by doing so inside of lists.

A leaf makes one term.  The only leaf that makes none is a bare property without a name; a rule
makes a term also when its property has no name, and so a rule stands for a bare property only where
there is a name.

## Main definitions

* `SortOrder.Lists` — the leaves of an order, list by list.
* `SortOrder.walk` — the terms of an order, written one behind the other on one walk.
* `SortOrder.Regrouped` — orders that differ only in how they nest.
* `SortOrder.Redirected` — one bare property, at any depth, becomes a rule in rising order.

## Main results

* `SortOrder.regrouped_iff` — the leaves are all that regrouping keeps.
* `SortOrder.sorted_by_leaves` — **a sort order is written from its leaves**.
* `SortOrder.terms_eq_map` — which leaves make terms.
* `SortOrder.one_term_per_leaf` — **a term for each leaf but a bare one without a name**.
-/

namespace PropertyGraph.SortOrder

open Cypher

/-! ### Orders and the leaves in them -/

/-- **Induction over sort orders**: a list from the orders in it. -/
@[elab_as_elim]
theorem induct {motive : SortOrder → Prop} (bare : ∀ name, motive (.bare name))
    (directed : ∀ name descending, motive (.directed name descending))
    (sequence : ∀ orders, (∀ order ∈ orders, motive order) → motive (.sequence orders))
    (order : SortOrder) : motive order :=
  @SortOrder.rec motive (fun orders => ∀ order ∈ orders, motive order) bare directed sequence
    (List.forall_mem_nil _) (fun _ _ hfirst hrest => List.forall_mem_cons.mpr ⟨hfirst, hrest⟩) order

@[simp] theorem leaves_bare (name : String) : (bare name).leaves = [.bare name] := by
  rw [leaves]

@[simp] theorem leaves_directed (name : String) (descending : Bool) :
    (directed name descending).leaves = [.directed name descending] := by
  rw [leaves]

/-- The leaves of a list are those of its items, one item after the other. -/
@[simp] theorem leaves_sequence (orders : List SortOrder) :
    (sequence orders).leaves = orders.flatMap leaves := by
  rw [leaves]
  induction orders with
  | nil => rw [leavesOf, List.flatMap_nil]
  | cons order rest ih => rw [leavesOf, List.flatMap_cons, ih]

/-- The leaves of a sort order from left to right: a property is its own leaf, and a list has the
leaves of its first item in front of those of the others. -/
inductive Lists : SortOrder → List Leaf → Prop where
  /-- A property by its name alone. -/
  | bare (name : String) : Lists (.bare name) [.bare name]
  /-- A property with a direction. -/
  | directed (name : String) (descending : Bool) :
    Lists (.directed name descending) [.directed name descending]
  /-- A list without items. -/
  | empty : Lists (.sequence []) []
  /-- A list with a first item. -/
  | first {order : SortOrder} {orders : List SortOrder} {leaves rest : List Leaf}
    (hfirst : Lists order leaves) (hrest : Lists (.sequence orders) rest) :
    Lists (.sequence (order :: orders)) (leaves ++ rest)

theorem lists_leaves (order : SortOrder) : order.Lists order.leaves := by
  induction order using induct with
  | bare name =>
    rw [leaves_bare]
    exact .bare name
  | directed name descending =>
    rw [leaves_directed]
    exact .directed name descending
  | sequence orders ih =>
    rw [leaves_sequence]
    induction orders with
    | nil => exact .empty
    | cons order rest ihrest =>
      obtain ⟨hfirst, hrest⟩ := List.forall_mem_cons.mp ih
      rw [List.flatMap_cons]
      exact .first hfirst (ihrest hrest)

/-- An order lists its leaves and no others. -/
theorem lists_iff {order : SortOrder} {leaves : List Leaf} :
    order.Lists leaves ↔ leaves = order.leaves := by
  constructor
  · intro h
    induction h with
    | bare name => rw [leaves_bare]
    | directed name descending => rw [leaves_directed]
    | empty => rw [leaves_sequence, List.flatMap_nil]
    | first _ _ hfirst hrest =>
      rw [leaves_sequence] at hrest ⊢
      rw [List.flatMap_cons, hfirst, hrest]
  · rintro rfl
    exact lists_leaves order

/-! ### Regrouping -/

/-- Two orders that differ only in how they nest. -/
inductive Regrouped : SortOrder → SortOrder → Prop where
  /-- Nothing is changed. -/
  | refl (a : SortOrder) : Regrouped a a
  /-- A change is undone. -/
  | symm {a b : SortOrder} (h : Regrouped a b) : Regrouped b a
  /-- One change after another. -/
  | trans {a b c : SortOrder} (hab : Regrouped a b) (hbc : Regrouped b c) : Regrouped a c
  /-- An order becomes the only item of a list. -/
  | wrapped (a : SortOrder) : Regrouped a (.sequence [a])
  /-- The items of a list inside of a list take its place; an empty list vanishes. -/
  | spliced (before inner after : List SortOrder) :
    Regrouped (.sequence (before ++ .sequence inner :: after))
      (.sequence (before ++ inner ++ after))
  /-- A change inside of a list. -/
  | inside (before : List SortOrder) {a b : SortOrder} (after : List SortOrder)
    (h : Regrouped a b) :
    Regrouped (.sequence (before ++ a :: after)) (.sequence (before ++ b :: after))

theorem Regrouped.leaves_eq {a b : SortOrder} (h : Regrouped a b) : a.leaves = b.leaves := by
  induction h with
  | refl a => rfl
  | symm _ ih => exact ih.symm
  | trans _ _ hab hbc => exact hab.trans hbc
  | wrapped a => rw [leaves_sequence, List.flatMap_singleton]
  | spliced before inner after =>
    rw [leaves_sequence, leaves_sequence, List.flatMap_append, List.flatMap_cons, leaves_sequence,
      List.flatMap_append, List.flatMap_append, List.append_assoc]
  | inside before after _ ih =>
    rw [leaves_sequence, leaves_sequence, List.flatMap_append, List.flatMap_append,
      List.flatMap_cons, List.flatMap_cons, ih]

/-- A leaf as a sort order of its own. -/
def Leaf.order : Leaf → SortOrder
  | .bare name => .bare name
  | .directed name descending => .directed name descending

/-- Every order becomes one list of its leaves. -/
theorem regrouped_flat (order : SortOrder) :
    Regrouped order (.sequence (order.leaves.map Leaf.order)) := by
  induction order using induct with
  | bare name =>
    rw [leaves_bare]
    exact .wrapped _
  | directed name descending =>
    rw [leaves_directed]
    exact .wrapped _
  | sequence orders ih =>
    -- the items that are flat already stand in front of those to come
    have key : ∀ before, Regrouped (.sequence (before ++ orders))
        (.sequence (before ++ (orders.flatMap leaves).map Leaf.order)) := by
      induction orders with
      | nil => exact fun before => .refl _
      | cons order rest ihrest =>
        intro before
        obtain ⟨hfirst, hrest⟩ := List.forall_mem_cons.mp ih
        have hflat := (hfirst.inside before rest).trans (.spliced before _ rest)
        have hothers := ihrest hrest (before ++ order.leaves.map Leaf.order)
        rw [List.flatMap_cons, List.map_append, ← List.append_assoc]
        exact hflat.trans hothers
    rw [leaves_sequence]
    exact key []

/-- **The leaves are all that regrouping keeps.** -/
theorem regrouped_iff {a b : SortOrder} : Regrouped a b ↔ a.leaves = b.leaves := by
  refine ⟨Regrouped.leaves_eq, fun h => ?_⟩
  have hflat := regrouped_flat b
  rw [← h] at hflat
  exact (regrouped_flat a).trans hflat.symm

/-! ### Terms -/

/-- The terms that a leaf makes: none for a bare property without a name, and one for all else. -/
def Leaf.written (var : String) : Leaf → List String
  | .bare name => if name = "" then [] else [var ++ "." ++ name]
  | .directed name descending => [var ++ "." ++ name ++ if descending then " DESC" else ""]

theorem Leaf.toList_term? (var : String) (leaf : Leaf) :
    (leaf.term? var).toList = leaf.written var := by
  cases leaf with
  | bare name => by_cases hname : name = "" <;> simp [term?, written, hname]
  | directed name descending => rfl

theorem terms_eq_flatMap (order : SortOrder) (var : String) :
    order.terms var = order.leaves.flatMap (Leaf.written var) := by
  rw [terms, List.filterMap_eq_flatMap_toList]
  exact congrArg order.leaves.flatMap (funext (Leaf.toList_term? var))

theorem terms_sequence (orders : List SortOrder) (var : String) :
    (sequence orders).terms var = orders.flatMap (·.terms var) := by
  rw [terms_eq_flatMap, leaves_sequence, List.flatMap_assoc]
  exact congrArg orders.flatMap (funext fun order => (terms_eq_flatMap order var).symm)

mutual

/-- One walk over a sort order, which writes the terms that it meets behind those that are there. -/
def walk (var : String) (out : List String) : SortOrder → List String
  | .bare name => if name = "" then out else out ++ [var ++ "." ++ name]
  | .directed name descending => out ++ [var ++ "." ++ name ++ if descending then " DESC" else ""]
  | .sequence orders => walkAll var out orders

/-- One walk over the orders of a list, one after the other. -/
def walkAll (var : String) (out : List String) : List SortOrder → List String
  | [] => out
  | order :: rest => walkAll var (walk var out order) rest

end

/-- A walk writes the terms of an order behind those that are there. -/
theorem walk_eq (var : String) (order : SortOrder) (out : List String) :
    walk var out order = out ++ order.terms var := by
  induction order using induct generalizing out with
  | bare name =>
    rw [terms_eq_flatMap, leaves_bare, List.flatMap_singleton, walk, Leaf.written]
    by_cases hname : name = ""
    · rw [if_pos hname, if_pos hname, List.append_nil]
    · rw [if_neg hname, if_neg hname]
  | directed name descending =>
    rw [terms_eq_flatMap, leaves_directed, List.flatMap_singleton, walk, Leaf.written]
  | sequence orders ih =>
    rw [terms_sequence, walk]
    induction orders generalizing out with
    | nil => rw [walkAll, List.flatMap_nil, List.append_nil]
    | cons order rest ihrest =>
      obtain ⟨hfirst, hrest⟩ := List.forall_mem_cons.mp ih
      rw [walkAll, hfirst, ihrest hrest, List.flatMap_cons, List.append_assoc]

theorem clause_eq (order : SortOrder) (var : String) :
    order.clause var = if order.terms var = [] then ""
      else "ORDER BY " ++ ", ".intercalate (order.terms var) := by
  unfold clause
  cases order.terms var with
  | nil => rfl
  | cons term rest => rfl

theorem clause_congr {a b : SortOrder} (h : a.leaves = b.leaves) (var : String) :
    a.clause var = b.clause var := by
  rw [clause_eq, clause_eq, terms_eq_flatMap, terms_eq_flatMap, h]

/-- **A sort order is written from its leaves.**  An order has one sequence of leaves, and a walk
over it writes their terms; the clause is empty when there are no terms, and has the keyword once
and commas between the terms otherwise.  So orders with the same leaves have the same clause, and
these are the ones that differ only in how they nest.  The terms of one list behind another are
those of the first in front of those of the second. -/
theorem sorted_by_leaves (var : String) :
    (∀ order : SortOrder, ∃ leaves, (∀ others, order.Lists others ↔ others = leaves) ∧
      walk var [] order = leaves.flatMap (Leaf.written var) ∧
      order.clause var = if leaves.flatMap (Leaf.written var) = [] then ""
        else "ORDER BY " ++ ", ".intercalate (leaves.flatMap (Leaf.written var))) ∧
    (∀ (a b : SortOrder) (leaves : List Leaf), a.Lists leaves → b.Lists leaves →
      a.clause var = b.clause var) ∧
    (∀ a b : SortOrder, Regrouped a b ↔ ∃ leaves, a.Lists leaves ∧ b.Lists leaves) ∧
    ∀ orders others : List SortOrder, (sequence (orders ++ others)).terms var
      = (sequence orders).terms var ++ (sequence others).terms var := by
  refine ⟨fun order => ⟨order.leaves, fun others => lists_iff, ?_, ?_⟩, ?_, ?_, ?_⟩
  · rw [walk_eq, List.nil_append, terms_eq_flatMap]
  · rw [clause_eq, terms_eq_flatMap]
  · intro a b leaves ha hb
    exact clause_congr ((lists_iff.mp ha).symm.trans (lists_iff.mp hb)) var
  · intro a b
    rw [regrouped_iff]
    constructor
    · intro h
      exact ⟨a.leaves, lists_leaves a, lists_iff.mpr h⟩
    · rintro ⟨leaves, ha, hb⟩
      exact (lists_iff.mp ha).symm.trans (lists_iff.mp hb)
  · intro orders others
    simp only [terms_sequence, List.flatMap_append]

/-- Lists in lists, one of them empty, and a property without a name. -/
def nestedOrder : SortOrder :=
  .sequence [.sequence [], .sequence [.bare "a", .sequence [.directed "b" true]], .bare ""]

/-- Neither the nesting nor what makes no term leaves a trace in the clause. -/
theorem sorted_by_leaves_nestedOrder :
    nestedOrder.Lists [.bare "a", .directed "b" true, .bare ""] ∧
    nestedOrder.clause "r" = "ORDER BY r.a, r.b DESC" := by
  have hlists : nestedOrder.Lists [.bare "a", .directed "b" true, .bare ""] :=
    lists_iff.mpr (by decide)
  obtain ⟨leaves, honly, -, hclause⟩ := (sorted_by_leaves "r").1 nestedOrder
  obtain rfl := (honly _).mp hlists
  exact ⟨hlists, hclause.trans (by decide)⟩

/-! ### Leaves without a name -/

theorem Leaf.written_eq (var : String) (leaf : Leaf) :
    leaf.written var = if leaf = .bare "" then [] else [Page.term var leaf.key] := by
  cases leaf with
  | bare name => by_cases hname : name = "" <;> simp [written, Page.term, key, hname]
  | directed name descending => rfl

/-- **Which leaves make terms**: all but the bare properties without a name. -/
theorem terms_eq_map (order : SortOrder) (var : String) :
    order.terms var
      = (order.leaves.filter (· ≠ .bare "")).map fun leaf => Page.term var leaf.key := by
  rw [terms_eq_flatMap]
  induction order.leaves with
  | nil => rfl
  | cons leaf rest ih =>
    rw [List.flatMap_cons, ih, Leaf.written_eq]
    by_cases hleaf : leaf = .bare "" <;> simp [hleaf]

theorem clause_eq_empty_iff (order : SortOrder) (var : String) :
    order.clause var = "" ↔ ∀ leaf ∈ order.leaves, leaf = .bare "" := by
  have hterms : order.terms var = [] ↔ ∀ leaf ∈ order.leaves, leaf = .bare "" := by
    rw [terms_eq_map, List.map_eq_nil_iff, List.filter_eq_nil_iff]
    simp
  rw [clause_eq, ← hterms]
  by_cases h : order.terms var = [] <;> simp [h]

/-- One bare property of an order, at any depth, becomes a rule in rising order. -/
inductive Redirected (name : String) : SortOrder → SortOrder → Prop where
  /-- The property on its own. -/
  | here : Redirected name (.bare name) (.directed name false)
  /-- A property in one item of a list. -/
  | inside (before : List SortOrder) {a b : SortOrder} (after : List SortOrder)
    (h : Redirected name a b) :
    Redirected name (.sequence (before ++ a :: after)) (.sequence (before ++ b :: after))

variable {name : String} {a b : SortOrder}

/-- Of the leaves only one is another. -/
theorem Redirected.exists_leaves_eq (h : Redirected name a b) :
    ∃ before after, a.leaves = before ++ .bare name :: after ∧
      b.leaves = before ++ .directed name false :: after := by
  induction h with
  | here => exact ⟨[], [], leaves_bare name, leaves_directed name false⟩
  | inside before after _ ih =>
    obtain ⟨front, behind, ha, hb⟩ := ih
    refine ⟨before.flatMap leaves ++ front, behind ++ after.flatMap leaves, ?_, ?_⟩
    · rw [leaves_sequence, List.flatMap_append, List.flatMap_cons, ha]
      simp only [List.append_assoc, List.cons_append]
    · rw [leaves_sequence, List.flatMap_append, List.flatMap_cons, hb]
      simp only [List.append_assoc, List.cons_append]

theorem length_listed_cons (keyword sep item : String) (items : List String) :
    (listed keyword sep (item :: items)).length
      = keyword.length + 1 + item.length + (String.join (items.map (sep ++ ·))).length := by
  have hspace : " ".length = 1 := rfl
  rw [listed_cons, intercalate_cons_eq_join, String.length_append, String.length_append,
    String.length_append, hspace]
  omega

/-- One more item makes another clause, because its separator has a length. -/
theorem listed_insert_ne (keyword item : String) {sep : String} (hsep : 0 < sep.length)
    (before after : List String) :
    listed keyword sep (before ++ item :: after) ≠ listed keyword sep (before ++ after) := by
  intro heq
  have hlength := congrArg String.length heq
  -- the first item has no separator, so it is set apart on both sides
  cases before with
  | nil =>
    cases after with
    | nil =>
      rw [List.append_nil, List.nil_append, listed_nil, length_listed_cons, String.length_empty]
        at hlength
      omega
    | cons first after =>
      rw [List.nil_append, List.nil_append, length_listed_cons, length_listed_cons, List.map_cons,
        String.join_cons, String.length_append, String.length_append] at hlength
      omega
  | cons first before =>
    rw [List.cons_append, List.cons_append, length_listed_cons, length_listed_cons,
      List.map_append, List.map_append, String.join_append, String.join_append, List.map_cons,
      String.join_cons, String.length_append, String.length_append, String.length_append,
      String.length_append] at hlength
    omega

/-- **A rule stands for a bare property only where there is a name.** -/
theorem Redirected.clause_eq_iff (h : Redirected name a b) (var : String) :
    b.clause var = a.clause var ↔ name ≠ "" := by
  obtain ⟨before, after, ha, hb⟩ := h.exists_leaves_eq
  constructor
  · rintro heq rfl
    unfold clause at heq
    rw [terms_eq_flatMap, terms_eq_flatMap, ha, hb, List.flatMap_append, List.flatMap_append,
      List.flatMap_cons, List.flatMap_cons] at heq
    exact listed_insert_ne "ORDER BY" (var ++ "." ++ "" ++ "") (by decide) _ _ heq
  · intro hname
    have hleaf : Leaf.written var (.bare name) = Leaf.written var (.directed name false) := by
      simp [Leaf.written, hname]
    rw [clause_eq, clause_eq, terms_eq_flatMap, terms_eq_flatMap, ha, hb, List.flatMap_append,
      List.flatMap_append, List.flatMap_cons, List.flatMap_cons, hleaf]

/-- **A term for each leaf but a bare one without a name.**  So the clause is empty exactly when all
leaves are of this kind, and writing a bare property as a rule in rising order changes nothing
exactly when it has a name.  As long as no rule lacks a name, a leaf without a name makes no term,
and the clause is empty exactly when no leaf has a name. -/
theorem one_term_per_leaf (order : SortOrder) (var : String) :
    order.terms var
      = (order.leaves.filter (· ≠ .bare "")).map (fun leaf => Page.term var leaf.key) ∧
    (order.clause var = "" ↔ ∀ leaf ∈ order.leaves, leaf = .bare "") ∧
    (∀ name other, Redirected name order other →
      (other.clause var = order.clause var ↔ name ≠ "")) ∧
    ((∀ leaf ∈ order.leaves, leaf.name = "" → leaf = .bare "") →
      order.terms var
        = (order.leaves.filter (·.name ≠ "")).map (fun leaf => Page.term var leaf.key) ∧
      (order.clause var = "" ↔ ∀ leaf ∈ order.leaves, leaf.name = "")) := by
  refine ⟨terms_eq_map order var, clause_eq_empty_iff order var,
    fun name other h => h.clause_eq_iff var, fun hnamed => ?_⟩
  have hname : ∀ leaf ∈ order.leaves, (leaf = .bare "" ↔ leaf.name = "") := by
    intro leaf hleaf
    refine ⟨?_, hnamed leaf hleaf⟩
    rintro rfl
    rfl
  constructor
  · have hfilter : order.leaves.filter (· ≠ .bare "") = order.leaves.filter (·.name ≠ "") :=
      List.filter_congr fun leaf hleaf => by simp only [ne_eq, hname leaf hleaf]
    rw [terms_eq_map, hfilter]
  · rw [clause_eq_empty_iff]
    exact forall₂_congr hname

/-- Two bare properties, of which only one has a name. -/
def halfNamed : SortOrder :=
  .sequence [.bare "a", .sequence [.bare ""]]

/-- The property with a name may become a rule, and the other one may not. -/
theorem one_term_per_leaf_halfNamed :
    Redirected "a" halfNamed (.sequence [.directed "a" false, .sequence [.bare ""]]) ∧
    (sequence [.directed "a" false, .sequence [.bare ""]]).clause "n" = halfNamed.clause "n" ∧
    Redirected "" halfNamed (.sequence [.bare "a", .sequence [.directed "" false]]) ∧
    (sequence [.bare "a", .sequence [.directed "" false]]).clause "n" ≠ halfNamed.clause "n" := by
  have hnamed : Redirected "a" halfNamed (.sequence [.directed "a" false, .sequence [.bare ""]]) :=
    .inside [] [.sequence [.bare ""]] .here
  have hnameless :
      Redirected "" halfNamed (.sequence [.bare "a", .sequence [.directed "" false]]) :=
    .inside [.bare "a"] [] (.inside [] [] .here)
  obtain ⟨-, -, hclause, -⟩ := one_term_per_leaf halfNamed "n"
  exact ⟨hnamed, (hclause "a" _ hnamed).mpr (by decide), hnameless,
    fun heq => (hclause "" _ hnameless).mp heq rfl⟩

/-- **A rule without a name makes a term**, of a variable and a dot, and so a clause; the bare
property for which it stands makes none. -/
theorem nameless_rule_makes_term :
    (∀ leaf ∈ (directed "" false).leaves, leaf.name = "") ∧
    (directed "" false).terms "n" = ["n."] ∧
    (directed "" false).clause "n" = "ORDER BY n." ∧
    Redirected "" (.bare "") (.directed "" false) ∧
    (directed "" false).clause "n" ≠ (bare "").clause "n" :=
  ⟨by decide, by decide, by decide, .here, by decide⟩

end PropertyGraph.SortOrder
