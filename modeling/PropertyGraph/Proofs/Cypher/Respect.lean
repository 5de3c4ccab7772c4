import Mathlib.Data.List.Forall2
import PropertyGraph.Proofs.Skeleton
import PropertyGraph.Proofs.Cypher.Slots
import PropertyGraph.Proofs.Decimal.Characters

/-!
# Relations that query text respects

A query text is put together from fixed words, names from outside, numbers and JSON strings.  A
relation between texts that holds of those pieces and is kept by concatenation therefore holds of a
whole text and the text of the skeleton of its command.  The walk through all the builders of query
text is made once, here, for any such relation.

## Main definitions

* `IsBland` — a text without a double quote and without an opening brace.
* `TextRelation` — a relation that holds of the pieces of a query text and is kept by concatenation.

## Main results

* `TextRelation.json` — such a relation holds of a JSON text and that of its skeleton.
* `TextRelation.matched` — the same for the clauses and the drawing of a relationship.
* `TextRelation.statement` — the same for the text of every command.
-/

namespace PropertyGraph

@[simp] theorem Endpoint.anchors_skeleton (e : Endpoint) (addressing : Cypher.Addressing)
    (var : String) : e.skeleton.anchors addressing var = e.anchors addressing var := by
  cases e <;> rfl

@[simp] theorem Endpoint.conditions_skeleton (e : Endpoint) (addressing : Cypher.Addressing)
    (var : String) : e.skeleton.conditions addressing var = e.conditions addressing var := by
  cases e <;> rfl

namespace Cypher

/-- A text without a double quote and without an opening brace. -/
def IsBland (s : String) : Prop :=
  ∀ c ∈ s.toList, c ≠ '"' ∧ c ≠ '{'

instance : DecidablePred IsBland := fun s =>
  List.decidableBAll (fun c => c ≠ '"' ∧ c ≠ '{') s.toList

theorem IsBland.append {a b : String} (ha : IsBland a) (hb : IsBland b) : IsBland (a ++ b) := by
  intro c hc
  rw [String.toList_append, List.mem_append] at hc
  rcases hc with hc | hc
  · exact ha c hc
  · exact hb c hc

/-- A written string, as a text. -/
def quoted (s : String) : String :=
  .ofList (Json.stringChars s)

theorem quoted_ne_empty (s : String) : quoted s ≠ "" := by
  intro h
  have hchars := congrArg String.toList h
  simp [quoted, Json.stringChars] at hchars

/-- A relation between texts that holds of the pieces of a query text and is kept when pieces are
put together.  Two strings may be related whatever they hold; everything else is related to
itself. -/
structure TextRelation (R : String → String → Prop) : Prop where
  /-- Related texts are empty together, so that an optional piece is there in both or in neither. -/
  empty_iff : ∀ {a b}, R a b → (a = "" ↔ b = "")
  /-- Related texts may be put behind related texts. -/
  append : ∀ {a b c d}, R a b → R c d → R (a ++ c) (b ++ d)
  /-- A text without quotes and opening braces is related to itself. -/
  bland : ∀ {s}, IsBland s → R s s
  /-- Any two written strings are related. -/
  quoted : ∀ s t, R (quoted s) (quoted t)
  /-- The brace in front of the name of a member. -/
  member : ∀ k, R ("\x7b" ++ Cypher.quoted k) ("\x7b" ++ Cypher.quoted k)
  /-- The braces of an empty object. -/
  braces : R noProperties noProperties
  /-- The brace in front of the properties of a pattern. -/
  opening : R "\x7b " "\x7b "

/-- Two nodes to match whose texts are related, and so are the texts after their variables. -/
def RelatedItems (R : String → String → Prop) (x y : NodeItem) : Prop :=
  R x.text y.text ∧ R x.rest y.rest

/-- Clauses whose contributions are related, slot by slot. -/
structure RelatedClauses (R : String → String → Prop) (c d : Clauses) : Prop where
  /-- The nodes to start from. -/
  starts : List.Forall₂ R (c.starts.map Anchor.node) (d.starts.map Anchor.node)
  /-- The nodes to match. -/
  nodes : List.Forall₂ (RelatedItems R) c.nodes d.nodes
  /-- The paths to match. -/
  paths : List.Forall₂ R c.paths d.paths
  /-- The conditions. -/
  conditions : List.Forall₂ R (c.conditions.map Anchor.condition)
    (d.conditions.map Anchor.condition)

/-- Both sides with the strings in their filters emptied. -/
def Ends.skeleton (e : Ends) : Ends :=
  ⟨e.source.skeleton, e.target.skeleton, e.eitherWay⟩

/-! ### Bland pieces -/

theorem isBland_of_isNumberChar {cs : List Char}
    (h : ∀ c ∈ cs, Decimal.isNumberChar c = true ∨ c ∈ ['n', 'u', 'l', 'l']) :
    IsBland (.ofList cs) := by
  intro c hc
  rw [String.toList_ofList] at hc
  rcases h c hc with h | h
  · constructor <;> rintro rfl <;> exact absurd h (by decide)
  · constructor <;> rintro rfl <;> exact absurd h (by decide)

theorem isBland_number (n : Number) : IsBland (.ofList n.chars) :=
  isBland_of_isNumberChar fun _ hc => Number.isNumberChar_of_mem_chars hc

theorem isBland_decimal (n : Int) : IsBland (Decimal.text n) :=
  isBland_number (.int n)

theorem isBland_word {s : String} (h : Text.IsWord s) : IsBland s := by
  intro c hc
  have hw := h c hc
  constructor <;> rintro rfl <;> exact absurd hw (by decide)

theorem Anchor.isBland_node {a : Anchor} (h : IsBland a.var) : IsBland a.node :=
  ((h.append (by decide)).append (isBland_decimal _)).append (by decide)

theorem Anchor.isBland_condition {a : Anchor} (h : IsBland a.var) : IsBland a.condition :=
  (((by decide : IsBland "id(").append h).append (by decide)).append (isBland_decimal _)

theorem Anchor.isBland_relation {a : Anchor} (h : IsBland a.var) : IsBland a.relation :=
  ((h.append (by decide)).append (isBland_decimal _)).append (by decide)

namespace TextRelation

variable {R : String → String → Prop} (hR : TextRelation R)

include hR

/-! ### Joining -/

theorem empty : R "" "" :=
  hR.bland (by decide)

theorem afterSpace {a b : String} (h : R a b) : R (afterSpace a) (afterSpace b) := by
  unfold Cypher.afterSpace
  simp only [String.isEmpty_iff]
  by_cases ha : a = ""
  · rw [if_pos ha, if_pos ((hR.empty_iff h).mp ha)]
    exact hR.empty
  · rw [if_neg ha, if_neg fun hb => ha ((hR.empty_iff h).mpr hb)]
    exact hR.append (hR.bland (by decide)) h

theorem intercalate {sep : String} (hsep : IsBland sep) {l l' : List String}
    (h : List.Forall₂ R l l') : R (sep.intercalate l) (sep.intercalate l') := by
  induction h with
  | nil => exact hR.empty
  | cons hxy hrest ih =>
    cases hrest with
    | nil => simpa using hxy
    | cons hxy' hrest' =>
      rw [String.intercalate_cons_cons, String.intercalate_cons_cons]
      exact hR.append (hR.append hxy (hR.bland hsep)) ih

theorem listed {keyword sep : String} (hk : IsBland keyword) (hsep : IsBland sep)
    {l l' : List String} (h : List.Forall₂ R l l') :
    R (listed keyword sep l) (listed keyword sep l') := by
  have hitems := hR.intercalate hsep h
  cases h with
  | nil => exact hR.empty
  | cons hxy hrest =>
    rw [listed_cons, listed_cons]
    exact hR.append (hR.bland (hk.append (by decide))) hitems

theorem words {l l' : List String} (h : List.Forall₂ R l l') : R (words l) (words l') := by
  refine hR.intercalate (by decide) (List.rel_filter ?_ h)
  intro a b hab
  simp only [Bool.not_eq_true', ← Bool.not_eq_true, String.isEmpty_iff, hR.empty_iff hab]

/-! ### JSON -/

theorem ofList_append {a b c d : List Char} (h : R (.ofList a) (.ofList b))
    (k : R (.ofList c) (.ofList d)) : R (.ofList (a ++ c)) (.ofList (b ++ d)) := by
  rw [String.ofList_append, String.ofList_append]
  exact hR.append h k

/-- A character in front of related texts. -/
theorem ofList_cons {c : Char} (hc : IsBland (.ofList [c])) {a b : List Char}
    (h : R (.ofList a) (.ofList b)) : R (.ofList (c :: a)) (.ofList (c :: b)) :=
  hR.ofList_append (a := [c]) (b := [c]) (hR.bland hc) h

mutual

/-- A value is related to its skeleton. -/
theorem chars_skeleton : ∀ v : Json, R (.ofList v.chars) (.ofList v.skeleton.chars)
  | .null => hR.bland (by decide)
  | .bool true => hR.bland (by decide)
  | .bool false => hR.bland (by decide)
  | .number n => hR.bland (isBland_number n)
  | .string s => hR.quoted s ""
  | .array [] => hR.bland (by decide)
  | .array (v :: rest) =>
    hR.ofList_append (hR.ofList_cons (by decide) (chars_skeleton v)) (itemsChars_skeleton rest)
  | .object [] => hR.braces
  | .object ((k, v) :: rest) => by
    have hname : R (.ofList ('{' :: Json.stringChars k)) (.ofList ('{' :: Json.stringChars k)) := by
      rw [← List.singleton_append, String.ofList_append]
      exact hR.member k
    have hvalue := hR.ofList_cons (c := ':') (by decide) (chars_skeleton v)
    exact hR.ofList_append (hR.ofList_append hname hvalue) (membersChars_skeleton rest)

/-- The items after the first one are related to their skeletons. -/
theorem itemsChars_skeleton : ∀ vs : List Json,
    R (.ofList (Json.itemsChars vs)) (.ofList (Json.itemsChars (Json.skeletonItems vs)))
  | [] => hR.bland (by decide)
  | v :: rest =>
    hR.ofList_append (hR.ofList_cons (by decide) (chars_skeleton v)) (itemsChars_skeleton rest)

/-- The members after the first one are related to their skeletons. -/
theorem membersChars_skeleton : ∀ ms : List (String × Json),
    R (.ofList (Json.membersChars ms)) (.ofList (Json.membersChars (Json.skeletonMembers ms)))
  | [] => hR.bland (by decide)
  | (k, v) :: rest => by
    have hname := hR.ofList_cons (c := ',') (by decide) (hR.quoted k k)
    have hvalue := hR.ofList_cons (c := ':') (by decide) (chars_skeleton v)
    exact hR.ofList_append (hR.ofList_append hname hvalue) (membersChars_skeleton rest)

end

theorem json (v : Json) : R v.text v.skeleton.text :=
  hR.chars_skeleton v

/-! ### Labels and properties -/

/-- Names that are related to themselves. -/
theorem labels {names : List String} (h : ∀ s ∈ names, R s s) :
    R (labels names) (labels names) := by
  refine hR.intercalate (by decide) (List.forall₂_same.mpr ?_)
  intro label hlabel
  obtain ⟨name, hname, rfl⟩ := List.mem_map.mp hlabel
  exact hR.append (hR.bland (by decide)) (h name hname)

theorem braced {l l' : List String} (h : List.Forall₂ R l l') : R (braced l) (braced l') :=
  hR.append (hR.append hR.opening (hR.intercalate (by decide) h)) (hR.bland (by decide))

theorem literals {m : Properties} (h : ∀ k ∈ m.keys, R k k) :
    R (literals m) (literals m.skeleton) := by
  unfold Cypher.literals
  rw [Properties.isEmpty_skeleton]
  split
  · exact hR.braces
  · refine hR.braced ?_
    show List.Forall₂ R (m.entries.map _) ((m.entries.map _).map _)
    rw [List.map_map, List.forall₂_map_left_iff, List.forall₂_map_right_iff, List.forall₂_same]
    rintro ⟨k, v⟩ hkv
    have hk : k ∈ m.keys := List.mem_map_of_mem hkv
    exact hR.append (hR.append (h k hk) (hR.bland (by decide))) (hR.json v)

theorem filterLiterals {filter : Option Properties} (h : ∀ k ∈ keysOf filter, R k k) :
    R (filterLiterals filter) (filterLiterals (filterSkeleton filter)) := by
  cases filter with
  | none => exact hR.empty
  | some m => exact hR.literals h

theorem nodeWith {names : List String} (h : ∀ s ∈ names, R s s) {p p' : String} (hp : R p p') :
    R (nodeWith names p) (nodeWith names p') :=
  hR.append (hR.append (hR.append (hR.bland (by decide)) (hR.labels h)) (hR.afterSpace hp))
    (hR.bland (by decide))

theorem nodeSelector {s : NodeSelector} (h : ∀ x ∈ s.names, R x x) : R s.text s.skeleton.text := by
  have hl := hR.labels fun x hx => h x (List.mem_append_left _ hx)
  have hf : ∀ k ∈ keysOf s.filter, R k k := fun k hk => h k (List.mem_append_right _ hk)
  obtain ⟨names, filter⟩ := s
  cases filter with
  | none => exact hR.append hl hR.empty
  | some m => exact hR.append hl (hR.append (hR.bland (by decide)) (hR.literals hf))

/-! ### Clauses -/

theorem item {var : String} (hvar : IsBland var) {rest rest' : String} (h : R rest rest') :
    RelatedItems R ⟨var, rest⟩ ⟨var, rest'⟩ := by
  refine ⟨?_, h⟩
  have hname : IsBland (if var.isEmpty then node else var) := by
    split
    · decide
    · exact hvar
  exact hR.append (hR.append (hR.append (hR.bland (by decide)) (hR.bland hname)) h)
    (hR.bland (by decide))

theorem items {e : Endpoint} (h : ∀ s ∈ e.names, R s s) {var : String} (hvar : IsBland var)
    (addressing : Addressing) :
    List.Forall₂ (RelatedItems R) (e.items addressing var) (e.skeleton.items addressing var) := by
  cases e with
  | any => exact .nil
  | node id =>
    cases addressing with
    | start => exact .nil
    | condition => exact .cons (hR.item hvar hR.empty) .nil
  | selected nodes => exact .cons (hR.item hvar (hR.nodeSelector h)) .nil

theorem anchors {l : List Anchor} (h : ∀ a ∈ l, IsBland a.var) :
    List.Forall₂ R (l.map Anchor.node) (l.map Anchor.node) ∧
      List.Forall₂ R (l.map Anchor.condition) (l.map Anchor.condition) := by
  constructor
  · apply List.forall₂_same.mpr
    intro t ht
    obtain ⟨a, ha, rfl⟩ := List.mem_map.mp ht
    exact hR.bland (Anchor.isBland_node (h a ha))
  · apply List.forall₂_same.mpr
    intro t ht
    obtain ⟨a, ha, rfl⟩ := List.mem_map.mp ht
    exact hR.bland (Anchor.isBland_condition (h a ha))

theorem clauses {e : Ends} (hs : ∀ s ∈ e.source.names, R s s) (ht : ∀ s ∈ e.target.names, R s s)
    (addressing : Addressing) :
    RelatedClauses R (e.clauses addressing) (e.skeleton.clauses addressing) := by
  rw [Ends.clauses_eq, Ends.clauses_eq]
  have hn : IsBland node := by decide
  have ho : IsBland otherNode := by decide
  constructor
  · simp only [Ends.skeleton, Endpoint.anchors_skeleton]
    refine (hR.anchors fun a ha => ?_).1
    rcases List.mem_append.mp ha with ha | ha
    · rw [Endpoint.var_of_mem_anchors ha]
      exact hn
    · rw [Endpoint.var_of_mem_anchors ha]
      exact ho
  · exact List.rel_append (hR.items hs hn addressing) (hR.items ht ho addressing)
  · exact .nil
  · simp only [Ends.skeleton, Endpoint.conditions_skeleton]
    refine (hR.anchors fun a ha => ?_).2
    rcases List.mem_append.mp ha with ha | ha
    · rw [Endpoint.var_of_mem_conditions ha]
      exact hn
    · rw [Endpoint.var_of_mem_conditions ha]
      exact ho

theorem clausesText {c d : Clauses} (h : RelatedClauses R c d) : R c.text d.text := by
  have hnodes : List.Forall₂ R (c.nodes.map NodeItem.text ++ c.paths)
      (d.nodes.map NodeItem.text ++ d.paths) := by
    refine List.rel_append ?_ h.paths
    rw [List.forall₂_map_left_iff, List.forall₂_map_right_iff]
    exact h.nodes.imp fun _ _ hxy => hxy.1
  refine hR.words (.cons ?_ (.cons ?_ (.cons ?_ .nil)))
  · exact hR.listed (by decide) (by decide) h.starts
  · exact hR.listed (by decide) (by decide) hnodes
  · exact hR.listed (by decide) (by decide) h.conditions

theorem withoutBareNodes {c d : Clauses} (h : RelatedClauses R c d) :
    RelatedClauses R c.withoutBareNodes d.withoutBareNodes := by
  refine ⟨h.starts, List.rel_filter ?_ h.nodes, h.paths, h.conditions⟩
  intro x y hxy
  simp only [Bool.not_eq_true', ← Bool.not_eq_true, String.isEmpty_iff, hR.empty_iff hxy.2]

/-! ### Relationships -/

theorem typeLabel {relType : Option String} (h : ∀ t ∈ relType.toList, R t t) :
    R (Shape.typeLabel relType) (Shape.typeLabel relType) := by
  cases relType with
  | none => exact hR.empty
  | some t =>
    unfold Shape.typeLabel
    simp only
    split
    · exact hR.empty
    · exact hR.labels h

theorem side (hasVariable : Bool) (var : String) (hvar : IsBland var) :
    R (Shape.side hasVariable var) (Shape.side hasVariable var) := by
  cases hasVariable with
  | false => exact hR.bland (s := "()") (by decide)
  | true => exact hR.bland (((by decide : IsBland "(").append hvar).append (by decide))

theorem pattern {e : Ends} {relType : Option String} (h : ∀ t ∈ relType.toList, R t t)
    {p p' : String} (hp : R p p') : R (e.pattern relType p) (e.skeleton.pattern relType p') := by
  have hshape : e.skeleton.shape = e.shape := by
    simp [Ends.shape, Ends.skeleton]
  have harrow : R (if e.shape.isDirected then ">" else "")
      (if e.shape.isDirected then ">" else "") := by
    split
    · exact hR.bland (by decide)
    · exact hR.empty
  unfold Ends.pattern Shape.pattern
  rw [hshape]
  have hfront := hR.append (hR.side e.shape.sourceNamed node (by decide))
    (hR.bland (s := "-[") (by decide))
  have hname := hR.append hfront (hR.bland (s := relation) (by decide))
  have hbody := hR.append (hR.append hname (hR.typeLabel h)) (hR.afterSpace hp)
  have hclose := hR.append (hR.append hbody (hR.bland (s := "]-") (by decide))) harrow
  exact hR.append hclose (hR.side e.shape.targetNamed otherNode (by decide))

theorem matched {e : Ends} (hs : ∀ s ∈ e.source.names, R s s) (ht : ∀ s ∈ e.target.names, R s s)
    {relType : Option String} (h : ∀ t ∈ relType.toList, R t t) {p p' : String} (hp : R p p')
    (addressing : Addressing) (attachment : Attachment) :
    R (e.matched addressing attachment relType p)
      (e.skeleton.matched addressing attachment relType p') := by
  have hc := hR.clauses hs ht addressing
  have hd := hR.pattern (e := e) h hp
  have hempty : (e.skeleton.clauses addressing).isEmpty = (e.clauses addressing).isEmpty := by
    rw [Ends.isEmpty_clauses, Ends.isEmpty_clauses]
    simp [Ends.skeleton]
  unfold Ends.matched Clauses.attach
  rw [hempty]
  split
  · exact hR.append (hR.bland (by decide)) hd
  · cases attachment with
    | optional => exact hR.append (hR.append (hR.clausesText hc) (hR.bland (by decide))) hd
    | folded =>
      -- the drawing goes to the end of the slot of paths
      have hw := hR.withoutBareNodes hc
      exact hR.clausesText ⟨hw.starts, hw.nodes, List.rel_append hw.paths (.cons hd .nil),
        hw.conditions⟩

/-! ### Pages -/

theorem counted {keyword : String} (hk : IsBland keyword) (n : Option Int64) :
    R (Paging.counted keyword n) (Paging.counted keyword n) := by
  cases n with
  | none => exact hR.empty
  | some k =>
    unfold Paging.counted
    simp only
    split
    · exact hR.bland ((hk.append (by decide)).append (isBland_decimal _))
    · exact hR.empty

theorem sortClause {order : SortOrder} (h : ∀ s ∈ order.leaves.map SortOrder.Leaf.name, R s s)
    {var : String} (hvar : IsBland var) : R (order.clause var) (order.clause var) := by
  refine hR.listed (by decide) (by decide) (List.forall₂_same.mpr fun term hterm => ?_)
  obtain ⟨leaf, hleaf, hsome⟩ := List.mem_filterMap.mp hterm
  have hname := h leaf.name (List.mem_map_of_mem hleaf)
  have hdotted : R (var ++ "." ++ leaf.name) (var ++ "." ++ leaf.name) :=
    hR.append (hR.bland (hvar.append (by decide))) hname
  cases leaf with
  | bare name =>
    unfold SortOrder.Leaf.term? at hsome
    simp only at hsome
    split at hsome
    · simp at hsome
    · rw [← Option.some.inj hsome]
      exact hdotted
  | directed name descending =>
    rw [← Option.some.inj hsome]
    cases descending with
    | false => exact hR.append hdotted (hR.bland (by decide))
    | true => exact hR.append hdotted (hR.bland (by decide))

theorem suffix {paging : Option Paging} (h : ∀ s ∈ pageNames paging, R s s) {var : String}
    (hvar : IsBland var) : R (Paging.suffix paging var) (Paging.suffix paging var) := by
  cases paging with
  | none => exact hR.empty
  | some p =>
    refine hR.afterSpace (hR.words (.cons ?_ (.cons ?_ (.cons ?_ .nil))))
    · obtain ⟨order, offset, limit⟩ := p
      cases order with
      | none => exact hR.empty
      | some order => exact hR.sortClause h hvar
    · exact hR.counted (by decide) p.offset
    · exact hR.counted (by decide) p.limit

/-! ### Statements -/

theorem payload {m : Properties} (h : R (placeholders m) (placeholders m)) :
    R (payload m) (payload m) := by
  unfold Cypher.payload
  unfold placeholders at h
  split
  · exact hR.braces
  · next hm =>
    rw [if_neg hm] at h
    exact h

theorem setting {var : String} (hvar : IsBland var) (mode : WriteMode) {p p' : String}
    (hp : R p p') : R (setting var mode p) (setting var mode p') := by
  have hmode : IsBland mode.operator := by cases mode <;> decide
  have hfront := ((by decide : IsBland " SET ").append hvar).append (by decide : IsBland " ")
  exact hR.append (hR.bland ((hfront.append hmode).append (by decide))) hp

theorem matching {s : RelationSelector} (ht : ∀ t ∈ s.relType.toList, R t t)
    (h : ∀ x ∈ s.names, R x x) (addressing : Addressing) :
    R (matching s addressing) (matching s.skeleton addressing) := by
  simp only [RelationSelector.names, List.mem_append, or_imp, forall_and] at h
  obtain ⟨⟨hsource, htarget⟩, hfilter⟩ := h
  exact hR.matched (e := s.ends) hsource htarget ht (hR.filterLiterals hfilter) addressing .optional

theorem findEnds {e : Ends} (hs : ∀ x ∈ e.source.names, R x x) (ht : ∀ x ∈ e.target.names, R x x)
    {relType : Option String} (hr : ∀ t ∈ relType.toList, R t t) {filter : Option Properties}
    (hf : ∀ k ∈ keysOf filter, R k k) {paging : Option Paging}
    (hp : ∀ x ∈ pageNames paging, R x x) {var : String} (hvar : IsBland var) :
    R (findEnds e var relType filter paging).text
      (findEnds e.skeleton var relType (filterSkeleton filter) paging).text := by
  have hdistinct : IsBland (returningDistinct var) :=
    (by decide : IsBland " RETURN DISTINCT ").append hvar
  exact hR.append (hR.append (hR.matched hs ht hr (hR.filterLiterals hf) .start .folded)
    (hR.bland hdistinct)) (hR.suffix hp hvar)

/-- What a command sends as parameters leaves its placeholders in the text, which are the same for
its skeleton. -/
theorem placeholders_skeleton {m : Properties} (h : R (placeholders m) (placeholders m)) :
    R (placeholders m) (placeholders m.skeleton) ∧
      R (Cypher.payload m) (Cypher.payload m.skeleton) := by
  have h₁ : placeholders m.skeleton = placeholders m := by
    unfold placeholders
    rw [Properties.isEmpty_skeleton, Properties.keys_skeleton]
  have h₂ : Cypher.payload m.skeleton = Cypher.payload m := by
    unfold Cypher.payload
    rw [Properties.isEmpty_skeleton, Properties.keys_skeleton]
  rw [h₁, h₂]
  exact ⟨h, hR.payload h⟩

/-- **The text of a command is related to the text of its skeleton**, if the names in it and the
placeholders of what it sends are related to themselves. -/
theorem statement (c : Command) (hnames : ∀ s ∈ c.names, R s s)
    (hsent : ∀ m, c.sent = some m → R (placeholders m) (placeholders m)) :
    R c.statement.text c.skeleton.statement.text := by
  have hnode : IsBland node := by decide
  have hrelation : IsBland relation := by decide
  -- each text is a concatenation, and its pieces are related one by one
  cases c with
  | createNode names data =>
    simp only [Command.names, List.mem_append, or_imp, forall_and] at hnames
    have hp := (hR.placeholders_skeleton (hsent data rfl)).1
    exact hR.append (hR.append (hR.bland (by decide)) (hR.nodeWith hnames.1 hp))
      (hR.bland (by decide))
  | deleteNodes nodes =>
    obtain ⟨names, filter⟩ := nodes
    simp only [Command.names, NodeSelector.names, List.mem_append, or_imp, forall_and] at hnames
    have hp : R (filterPlaceholders filter) (filterPlaceholders (filterSkeleton filter)) := by
      cases filter with
      | none => exact hR.empty
      | some m => exact (hR.placeholders_skeleton (hsent m rfl)).1
    exact hR.append (hR.append (hR.bland (by decide)) (hR.nodeWith hnames.1 hp))
      (hR.bland (by decide))
  | deleteNode id =>
    exact hR.bland (((by decide : IsBland "START ").append (Anchor.isBland_node hnode)).append
      (by decide))
  | setNodes nodes data mode =>
    obtain ⟨names, filter⟩ := nodes
    simp only [Command.names, NodeSelector.names, List.mem_append, or_imp, forall_and] at hnames
    have hp := (hR.placeholders_skeleton (hsent data rfl)).2
    have hmatch := hR.nodeWith hnames.1.1 (hR.filterLiterals hnames.1.2)
    exact hR.append (hR.append (hR.append (hR.bland (by decide)) hmatch)
      (hR.setting hnode mode hp)) (hR.bland (by decide))
  | setNode id data mode =>
    have hp := (hR.placeholders_skeleton (hsent data rfl)).2
    have hstart := hR.bland ((by decide : IsBland "START ").append
      (Anchor.isBland_node (a := ⟨id, node⟩) hnode))
    exact hR.append (hR.append hstart (hR.setting hnode mode hp)) (hR.bland (by decide))
  | findNodes nodes paging =>
    obtain ⟨names, filter⟩ := nodes
    simp only [Command.names, NodeSelector.names, List.mem_append, or_imp, forall_and] at hnames
    have hmatch := hR.nodeWith hnames.1.1 (hR.filterLiterals hnames.1.2)
    exact hR.append (hR.append (hR.append (hR.bland (by decide)) hmatch) (hR.bland (by decide)))
      (hR.suffix hnames.2 hnode)
  | lookUpNode id =>
    have hwhere := (by decide : IsBland "WHERE ").append
      (Anchor.isBland_condition (a := ⟨id, node⟩) hnode)
    exact hR.bland (((by decide : IsBland ("MATCH (" ++ node ++ ") ")).append hwhere).append
      (by decide))
  | connect source relType target data =>
    simp only [Command.names, List.mem_append, or_imp, forall_and] at hnames
    obtain ⟨⟨⟨hs, hr⟩, ht⟩, -⟩ := hnames
    have hp := (hR.placeholders_skeleton (hsent data rfl)).1
    have hclauses := hR.clausesText (hR.clauses (e := ⟨source, target, false⟩) hs ht .start)
    have hdrawing := hR.pattern (e := ⟨source, target, false⟩) hr hp
    exact hR.append (hR.words (.cons hclauses (.cons (hR.append (hR.bland (by decide)) hdrawing)
      .nil))) (hR.bland (by decide))
  | setRelations relations data mode =>
    simp only [Command.names, List.mem_append, or_imp, forall_and] at hnames
    obtain ⟨⟨hr, hx⟩, hd⟩ := hnames
    exact hR.append (hR.append (hR.matching hr hx .start) (hR.setting hrelation mode
      (hR.literals hd))) (hR.bland (by decide))
  | setRelation id data mode =>
    have hp := (hR.placeholders_skeleton (hsent data rfl)).2
    have hstart := hR.bland ((by decide : IsBland "START ").append
      (Anchor.isBland_relation (a := ⟨id, relation⟩) hrelation))
    exact hR.append (hR.append hstart (hR.setting hrelation mode hp)) (hR.bland (by decide))
  | deleteRelations relations =>
    simp only [Command.names, List.mem_append, or_imp, forall_and] at hnames
    exact hR.append (hR.matching hnames.1 hnames.2 .start) (hR.bland (by decide))
  | deleteRelation id =>
    exact hR.bland (((by decide : IsBland "START ").append
      (Anchor.isBland_relation hrelation)).append (by decide))
  | findRelations relations paging =>
    simp only [Command.names, List.mem_append, or_imp, forall_and] at hnames
    obtain ⟨⟨hr, hx⟩, hp⟩ := hnames
    exact hR.append (hR.append (hR.matching hr hx .condition) (hR.bland (by decide)))
      (hR.suffix hp hrelation)
  | lookUpRelation id =>
    have hwhere := (by decide : IsBland "WHERE ").append
      (Anchor.isBland_condition (a := ⟨id, relation⟩) hrelation)
    exact hR.bland (((by decide : IsBland ("MATCH ()-[" ++ relation ++ "]-() ")).append
      hwhere).append (by decide))
  | findSources target relType filter paging =>
    simp only [Command.names, List.mem_append, or_imp, forall_and] at hnames
    obtain ⟨⟨⟨hx, hr⟩, hf⟩, hp⟩ := hnames
    exact hR.findEnds (e := ⟨.unconditional, target, false⟩) (by simp) hx hr hf hp hnode
  | findTargets source relType filter paging =>
    simp only [Command.names, List.mem_append, or_imp, forall_and] at hnames
    obtain ⟨⟨⟨hx, hr⟩, hf⟩, hp⟩ := hnames
    exact hR.findEnds (e := ⟨source, .unconditional, false⟩) hx (by simp) hr hf hp (by decide)
  | findNeighbours other relType filter paging =>
    simp only [Command.names, List.mem_append, or_imp, forall_and] at hnames
    obtain ⟨⟨⟨hx, hr⟩, hf⟩, hp⟩ := hnames
    exact hR.findEnds (e := ⟨.unconditional, other, true⟩) (by simp) hx hr hf hp hnode

end TextRelation

end Cypher

end PropertyGraph
