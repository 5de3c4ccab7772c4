import Mathlib.Data.List.Basic
import PropertyGraph.Proofs.Cypher.Slots

/-!
# Contributions in any order

Contributions to the clauses of a statement may come in any order.  The text puts them into place:
the starting points behind one keyword, the nodes and then the paths to match behind another, and
the conditions behind a third, each keyword once and only where something follows it.  So the text
depends on the contributions of each kind in their order, and not on how the kinds are mixed.

## Main definitions

* `Clause.Kind`, `Clause.text` — the kind of a contribution, and what it says.
* `Cypher.textsOf` — what the contributions of one kind say, in order.
* `Cypher.keyworded` — a clause as at most one piece of the text.
* `Cypher.alsoMatching` — a clause that matches, with one path more.

## Main results

* `Clauses.ofList_congr` — the order between kinds does not matter.
* `Clauses.withoutBareNodes_ofList` — leaving out bare nodes is leaving out their contributions.
* `Clauses.foldl_alsoMatching` — the clause that matches, built one item after another.
* `Clauses.slots_never_interleave` — **the slots never interleave.**
-/

namespace PropertyGraph.Cypher

namespace Clause

/-- The kinds of contributions. -/
inductive Kind where
  /-- A node to start from. -/
  | start
  /-- A node to match. -/
  | node
  /-- A path to match. -/
  | path
  /-- A condition on an identity. -/
  | condition
  deriving DecidableEq, Repr

/-- The kind of a contribution. -/
def kind : Clause → Kind
  | .start _ => .start
  | .node _ => .node
  | .path _ => .path
  | .condition _ => .condition

/-- What a contribution says: `v=node(7)`, `(v` with labels and properties and `)`, a path as it is,
or `id(v) = 7`.  A node without a variable has the variable of the node of a statement. -/
def text : Clause → String
  | .start anchor => anchor.var ++ "=node(" ++ anchor.id.text ++ ")"
  | .node item => "(" ++ (if item.var = "" then "n" else item.var) ++ item.rest ++ ")"
  | .path pattern => pattern
  | .condition anchor => "id(" ++ anchor.var ++ ") = " ++ anchor.id.text

/-- Whether a contribution is a node that says nothing but its variable. -/
def isBare : Clause → Bool
  | .node item => item.rest = ""
  | _ => false

end Clause

/-- What the contributions of one kind say, in order. -/
def textsOf (kind : Clause.Kind) (contributions : List Clause) : List String :=
  (contributions.filter (·.kind = kind)).map Clause.text

/-- A keyword and its items, as one piece of a text; no piece when there are no items. -/
def keyworded (keyword separator : String) (items : List String) : List String :=
  if items = [] then [] else [keyword ++ " " ++ separator.intercalate items]

/-- A clause that matches, with one path more; the keyword comes with the first item. -/
def alsoMatching (clause path : String) : String :=
  if clause.isEmpty then "MATCH " ++ path else clause ++ ", " ++ path

/-! ### Pieces of a text -/

theorem listed_eq_empty_iff {keyword separator : String} {items : List String} :
    listed keyword separator items = "" ↔ items = [] := by
  cases items <;> simp

theorem filter_listed (keyword separator : String) (items : List String) :
    [listed keyword separator items].filter (fun piece => !piece.isEmpty)
      = keyworded keyword separator items := by
  cases items with
  | nil => rfl
  | cons item items => simp [keyworded]

/-- The clauses that have an item, with one space between them. -/
theorem words_listed (starts matched conditions : List String) :
    words [listed "START" ", " starts, listed "MATCH" ", " matched,
        listed "WHERE" " AND " conditions]
      = " ".intercalate (keyworded "START" ", " starts ++ keyworded "MATCH" ", " matched ++
          keyworded "WHERE" " AND " conditions) := by
  rw [← filter_listed, ← filter_listed, ← filter_listed, ← List.filter_append,
    ← List.filter_append]
  rfl

theorem words_eq_empty_iff {pieces : List String} :
    words pieces = "" ↔ ∀ piece ∈ pieces, piece = "" := by
  induction pieces with
  | nil => simp [words]
  | cons piece rest ih =>
    rw [List.forall_mem_cons]
    by_cases h : piece = ""
    · rw [h, words_empty_cons, ih]
      simp
    · rw [words_cons h]
      simp [h]

namespace Clauses

open Clause

variable {contributions contributions' : List Clause}

/-! ### What each slot says -/

theorem map_filterMap_eq_textsOf {α : Type} {pick : Clause → Option α} {write : α → String}
    {kind : Clause.Kind}
    (h : ∀ c : Clause, (pick c).map write = if c.kind = kind then some c.text else none) :
    (contributions.filterMap pick).map write = textsOf kind contributions := by
  unfold textsOf
  rw [List.map_filterMap]
  simp only [h]
  induction contributions with
  | nil => rfl
  | cons c rest ih =>
    by_cases hc : c.kind = kind <;> simp [hc, ih]

theorem starts_ofList :
    (ofList contributions).starts.map Anchor.node = textsOf .start contributions := by
  rw [ofList_eq]
  exact map_filterMap_eq_textsOf fun c => by cases c <;> rfl

theorem nodes_ofList :
    (ofList contributions).nodes.map NodeItem.text = textsOf .node contributions := by
  rw [ofList_eq]
  refine map_filterMap_eq_textsOf fun c => ?_
  cases c with
  | node item => simp [node?, kind, Clause.text, NodeItem.text, Cypher.node]
  | _ => rfl

theorem paths_ofList : (ofList contributions).paths = textsOf .path contributions := by
  rw [ofList_eq, ← List.map_id (contributions.filterMap path?)]
  exact map_filterMap_eq_textsOf fun c => by cases c <;> rfl

theorem conditions_ofList :
    (ofList contributions).conditions.map Anchor.condition = textsOf .condition contributions := by
  rw [ofList_eq]
  exact map_filterMap_eq_textsOf fun c => by cases c <;> rfl

/-! ### The order of contributions -/

theorem filterMap_filter_kind {α : Type} {pick : Clause → Option α} {kind : Clause.Kind}
    (h : ∀ c : Clause, c.kind ≠ kind → pick c = none) :
    (contributions.filter (·.kind = kind)).filterMap pick = contributions.filterMap pick := by
  rw [List.filterMap_filter]
  refine List.filterMap_congr fun c _ => ?_
  by_cases hc : c.kind = kind
  · simp [hc]
  · simp [hc, h c hc]

/-- **The order between kinds does not matter.** -/
theorem ofList_congr
    (h : ∀ kind, contributions.filter (·.kind = kind) = contributions'.filter (·.kind = kind)) :
    ofList contributions = ofList contributions' := by
  have hslot : ∀ {α : Type} (pick : Clause → Option α) (kind : Clause.Kind),
      (∀ c : Clause, c.kind ≠ kind → pick c = none) →
      contributions.filterMap pick = contributions'.filterMap pick := by
    intro α pick kind hpick
    rw [← filterMap_filter_kind hpick, h kind, filterMap_filter_kind hpick]
  rw [ofList_eq, ofList_eq, hslot start? .start, hslot node? .node, hslot path? .path,
    hslot condition? .condition]
  all_goals
    intro c hc
    cases c <;> first | rfl | exact absurd rfl hc

theorem isEmpty_ofList : (ofList contributions).isEmpty = true ↔ contributions = [] := by
  rw [ofList_eq]
  cases contributions with
  | nil => simp [isEmpty]
  | cons c rest => cases c <;> simp [isEmpty, start?, node?, path?, condition?]

theorem text_eq_empty_iff (c : Clauses) : c.text = "" ↔ c.isEmpty = true := by
  unfold text isEmpty
  rw [words_eq_empty_iff]
  simp [listed_eq_empty_iff, and_assoc]

/-! ### Composing with a relationship -/

/-- **Leaving out bare nodes** is leaving out their contributions. -/
theorem withoutBareNodes_ofList :
    (ofList contributions).withoutBareNodes = ofList (contributions.filter (!·.isBare)) := by
  unfold withoutBareNodes
  rw [ofList_eq, ofList_eq]
  simp only [List.filterMap_filter, List.filter_filterMap, Clauses.mk.injEq]
  refine ⟨?_, ?_, ?_, ?_⟩
  all_goals
    refine List.filterMap_congr fun c _ => ?_
    cases c with
    | node item =>
      by_cases h : item.rest = "" <;> simp [isBare, start?, node?, path?, condition?, h]
    | _ => rfl

theorem add_ofList (c : Clause) : (ofList contributions).add c = ofList (contributions ++ [c]) := by
  unfold ofList
  rw [List.foldl_append]
  rfl

theorem attach_of_ne_nil (h : contributions ≠ []) (pattern : String) (attachment : Attachment) :
    (ofList contributions).attach pattern attachment =
      match attachment with
      | .optional => (ofList contributions).text ++ " OPTIONAL MATCH " ++ pattern
      | .folded => (ofList (contributions.filter (!·.isBare) ++ [.path pattern])).text := by
  unfold attach
  rw [if_neg (mt isEmpty_ofList.mp h)]
  cases attachment with
  | optional => rfl
  | folded =>
    simp only
    rw [withoutBareNodes_ofList, add_ofList]

/-! ### One item after another -/

theorem matchNodes_eq_listed (items : List NodeItem) :
    matchNodes (items.map (·.rest)) (items.map (·.var))
      = listed "MATCH" ", " (items.map NodeItem.text) := by
  unfold matchNodes
  congr 1
  refine List.ext_getElem (by simp) fun i _ h => ?_
  rw [List.length_map] at h
  simp [h]

theorem alsoMatching_listed (items : List String) (path : String) :
    alsoMatching (listed "MATCH" ", " items) path = listed "MATCH" ", " (items ++ [path]) := by
  cases items with
  | nil => rfl
  | cons item items =>
    have hne : listed "MATCH" ", " (item :: items) ≠ "" := by simp
    rw [alsoMatching, isEmpty_eq_false hne, List.cons_append, listed_cons, listed_cons,
      ← List.cons_append, String.intercalate_append_of_ne_nil (by simp) (by simp)]
    simp [String.append_assoc]

/-- **The clause that matches, built one item after another**: the nodes at once, from their
variables and what follows these, and then one path after another. -/
theorem foldl_alsoMatching (items : List NodeItem) (paths : List String) :
    paths.foldl alsoMatching (matchNodes (items.map (·.rest)) (items.map (·.var)))
      = listed "MATCH" ", " (items.map NodeItem.text ++ paths) := by
  rw [matchNodes_eq_listed]
  generalize items.map NodeItem.text = texts
  induction paths generalizing texts with
  | nil => rw [List.foldl_nil, List.append_nil]
  | cons path rest ih =>
    rw [List.foldl_cons, alsoMatching_listed, ih, List.append_assoc, List.singleton_append]

/-- **The slots never interleave.**  Whatever the order of the contributions, the text has the
starting points behind one keyword, the nodes and then the paths to match behind another and the
conditions behind a third, each kind in its own order, with one space between the clauses that have
an item; the clause that matches may as well be built one item after another.  Contributions with
the same order within each kind make the same text and join a relationship in the same way.  The
clauses are empty exactly when their text is, and when nothing was contributed.  Otherwise a folded
relationship is one path more, without the nodes that say nothing but their variable, and an
optional one follows the text. -/
theorem slots_never_interleave (contributions : List Clause) :
    (ofList contributions).text = " ".intercalate
      (keyworded "START" ", " (textsOf .start contributions) ++
        keyworded "MATCH" ", " (textsOf .node contributions ++ textsOf .path contributions) ++
        keyworded "WHERE" " AND " (textsOf .condition contributions)) ∧
    (ofList contributions).paths.foldl alsoMatching
        (matchNodes ((ofList contributions).nodes.map (·.rest))
          ((ofList contributions).nodes.map (·.var)))
      = listed "MATCH" ", " (textsOf .node contributions ++ textsOf .path contributions) ∧
    (∀ contributions',
      (∀ kind, contributions'.filter (·.kind = kind) = contributions.filter (·.kind = kind)) →
      (ofList contributions').text = (ofList contributions).text ∧
      ∀ pattern attachment, (ofList contributions').attach pattern attachment
        = (ofList contributions).attach pattern attachment) ∧
    ((ofList contributions).isEmpty = true ↔ contributions = []) ∧
    ((ofList contributions).text = "" ↔ contributions = []) ∧
    (contributions ≠ [] → ∀ pattern,
      (ofList contributions).attach pattern .folded
        = (ofList (contributions.filter (!·.isBare) ++ [.path pattern])).text ∧
      (ofList contributions).attach pattern .optional
        = (ofList contributions).text ++ " OPTIONAL MATCH " ++ pattern) := by
  refine ⟨?_, ?_, fun contributions' h => ?_, isEmpty_ofList, ?_, fun h pattern => ?_⟩
  · rw [← words_listed, ← starts_ofList, ← nodes_ofList, ← paths_ofList, ← conditions_ofList]
    rfl
  · rw [foldl_alsoMatching, nodes_ofList, paths_ofList]
  · rw [ofList_congr h]
    exact ⟨rfl, fun _ _ => rfl⟩
  · rw [text_eq_empty_iff, isEmpty_ofList]
  · exact ⟨attach_of_ne_nil h pattern .folded, attach_of_ne_nil h pattern .optional⟩

/-- Contributions of all kinds, with a bare node and a node without a variable among them. -/
def mixedContributions : List Clause :=
  [.condition ⟨⟨2⟩, "m"⟩, .path "(m)--()", .node ⟨"m", ""⟩, .start ⟨⟨1⟩, "x"⟩, .node ⟨"", ":City"⟩,
    .condition ⟨⟨-3⟩, "n"⟩]

/-- The same contributions with the kinds mixed in another way. -/
def sortedContributions : List Clause :=
  [.start ⟨⟨1⟩, "x"⟩, .node ⟨"m", ""⟩, .node ⟨"", ":City"⟩, .path "(m)--()", .condition ⟨⟨2⟩, "m"⟩,
    .condition ⟨⟨-3⟩, "n"⟩]

/-- Conditions that came first stand last, and folding drops the bare node. -/
theorem slots_never_interleave_mixedContributions :
    (ofList mixedContributions).text
      = "START x=node(1) MATCH (m), (n:City), (m)--() WHERE id(m) = 2 AND id(n) = -3" ∧
    (ofList sortedContributions).text = (ofList mixedContributions).text ∧
    mixedContributions ≠ [] ∧
    (ofList mixedContributions).attach "(n)-[r]-(m)" .folded
      = (ofList (mixedContributions.filter (!·.isBare) ++ [.path "(n)-[r]-(m)"])).text := by
  obtain ⟨htext, -, horder, -, -, hattach⟩ := slots_never_interleave mixedContributions
  have hne : mixedContributions ≠ [] := by decide
  have hkinds : ∀ kind, sortedContributions.filter (·.kind = kind)
      = mixedContributions.filter (·.kind = kind) := by
    intro kind
    cases kind <;> decide
  exact ⟨htext.trans (by decide +kernel), (horder _ hkinds).1, hne, (hattach hne _).1⟩

end Clauses

end PropertyGraph.Cypher
