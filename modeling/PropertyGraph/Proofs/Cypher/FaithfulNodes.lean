import PropertyGraph.Proofs.Cypher.Page

/-!
# Statements on nodes are faithful

A statement on the nodes of a selector determines what it was written from: the labels in order, the
filter, the data, the mode and the page.  What it does not determine is listed here completely.  A
deletion does not tell an absent filter from an empty one, and a search shows of its page only what
the page comes down to.

## Main results

* `createNode_eq_iff`, `deleteNodes_eq_iff`, `setNodes_eq_iff`, `findNodes_eq_iff` — when two
  statements of one kind are equal.
* `nodeStatements_eq_iff` — **statements on nodes are faithful**, all four kinds together.
-/

namespace PropertyGraph

open Text

/-- A map that is not empty is sent as it is, and an empty one is left out. -/
theorem Properties.nonempty?_injective {m n : Properties} (h : m.nonempty? = n.nonempty?) :
    m = n := by
  unfold nonempty? at h
  by_cases hm : m.isEmpty = true
  · by_cases hn : n.isEmpty = true
    · rw [(isEmpty_iff m).mp hm, (isEmpty_iff n).mp hn]
    · rw [if_pos hm, if_neg hn] at h
      exact absurd h (by simp)
  · by_cases hn : n.isEmpty = true
    · rw [if_neg hm, if_pos hn] at h
      exact absurd h (by simp)
    · rw [if_neg hm, if_neg hn] at h
      exact Option.some.inj h

namespace Cypher

theorem filterPlaceholders_eq (filter : Option Properties) :
    filterPlaceholders filter = placeholders (filter.getD ∅) := by
  cases filter <;> rfl

theorem bind_nonempty? (filter : Option Properties) :
    filter.bind (·.nonempty?) = (filter.getD ∅).nonempty? := by
  cases filter <;> rfl

/-- Labels in the same place of the same pattern are equal. -/
theorem labels_eq_of_nodeWith_eq {names names' : List String} (h : ∀ s ∈ names, IsWord s)
    (h' : ∀ s ∈ names', IsWord s) {properties : String}
    (heq : nodeWith names properties = nodeWith names' properties) : names = names' := by
  have hlabels : labels names = labels names' := by
    simpa only [nodeWith, String.append_assoc, String.append_right_inj, String.append_left_inj]
      using heq
  exact (readable_labels [";"] (by decide) (by decide)).eq_of_write_eq
    (List.mem_singleton_self _) h h' hlabels

/-- The operator of a mode can be told from what follows it. -/
theorem readable_operator (words : List String) :
    Readable (fun _ : WriteMode => True) WriteMode.operator words := by
  have hclash : Clash "+=" "=" := by decide
  rintro (_ | _) (_ | _) _ _ r s _ _ heq
  · exact ⟨rfl, (String.append_right_inj _).mp heq⟩
  · exact absurd heq (hclash.append_ne r s)
  · exact absurd heq.symm (hclash.append_ne s r)
  · exact ⟨rfl, (String.append_right_inj _).mp heq⟩

/-- Equal statements have equal texts, also in front of what follows a statement. -/
theorem text_append_eq {a b : Statement} (h : a = b) : a.text ++ ";" = b.text ++ ";" := by
  rw [h]

theorem begins_end : Begins [";"] ";" :=
  ⟨";", List.mem_singleton_self _, "", rfl⟩

/-! ### The four statements -/

/-- A creation determines its labels and its data. -/
theorem createNode_eq_iff {names names' : List String} {data data' : Properties}
    (h : ∀ s ∈ names, IsWord s) (h' : ∀ s ∈ names', IsWord s) :
    createNode names data = createNode names' data' ↔ names = names' ∧ data = data' := by
  constructor
  · intro heq
    obtain rfl : data = data' := Properties.nonempty?_injective (congrArg Statement.params heq)
    have htext := congrArg Statement.text heq
    simp only [createNode, Statement.binding, String.append_assoc, String.append_right_inj,
      String.append_left_inj] at htext
    exact ⟨labels_eq_of_nodeWith_eq h h' htext, rfl⟩
  · rintro ⟨rfl, rfl⟩
    rfl

/-- A deletion determines its labels, and its filter up to an empty one for an absent one. -/
theorem deleteNodes_eq_iff {s s' : NodeSelector} (h : ∀ x ∈ s.labels, IsWord x)
    (h' : ∀ x ∈ s'.labels, IsWord x) :
    deleteNodes s = deleteNodes s'
      ↔ s.labels = s'.labels ∧ s.filter.getD ∅ = s'.filter.getD ∅ := by
  unfold deleteNodes
  rw [filterPlaceholders_eq, filterPlaceholders_eq, bind_nonempty?, bind_nonempty?]
  constructor
  · -- the filter comes from the parameters, so that only the labels are left to the text
    intro heq
    obtain ⟨htext, hparams⟩ := Statement.mk.inj heq
    have hfilter := Properties.nonempty?_injective hparams
    rw [hfilter] at htext
    simp only [String.append_assoc, String.append_right_inj, String.append_left_inj] at htext
    exact ⟨labels_eq_of_nodeWith_eq h h' htext, hfilter⟩
  · rintro ⟨hlabels, hfilter⟩
    rw [hlabels, hfilter]

/-- A change determines its selector, its data and its mode. -/
theorem setNodes_eq_iff {s s' : NodeSelector} {data data' : Properties} {mode mode' : WriteMode}
    (h : s.IsReadable) (h' : s'.IsReadable) :
    setNodes s data mode = setNodes s' data' mode' ↔ s = s' ∧ data = data' ∧ mode = mode' := by
  constructor
  · intro heq
    obtain rfl : data = data' := Properties.nonempty?_injective (congrArg Statement.params heq)
    -- the data come from the parameters, the selector and the mode from the text
    have htext := congrArg Statement.text heq
    simp only [setNodes, Statement.binding, nodeWith_filterLiterals, setting, String.append_assoc,
      String.append_right_inj] at htext
    obtain ⟨rfl, hbehind⟩ := readable_selector h h' (.self _ _)
      (.self _ _) htext
    simp only [String.append_right_inj] at hbehind
    obtain ⟨rfl, -⟩ := readable_operator [" "] trivial trivial
      (.self _ _) (.self _ _) hbehind
    exact ⟨rfl, rfl, rfl⟩
  · rintro ⟨rfl, rfl, rfl⟩
    rfl

/-- A search determines its selector and what its page comes down to. -/
theorem findNodes_eq_iff {s s' : NodeSelector} {p p' : Option Paging} (h : s.IsReadable)
    (h' : s'.IsReadable) (hp : ∀ x ∈ pageNames p, IsName x) (hp' : ∀ x ∈ pageNames p', IsName x) :
    findNodes s p = findNodes s' p' ↔ s = s' ∧ pageOf p = pageOf p' := by
  unfold findNodes
  rw [Paging.suffix_eq fun x hx => (hp x hx).1, Paging.suffix_eq fun x hx => (hp' x hx).1]
  constructor
  · intro heq
    have htext := text_append_eq heq
    simp only [nodeWith_filterLiterals, String.append_assoc, String.append_right_inj] at htext
    obtain ⟨rfl, hbehind⟩ := readable_selector h h' (.self _ _)
      (.self _ _) htext
    simp only [String.append_right_inj] at hbehind
    obtain ⟨hpage, -⟩ := Page.readable_text node (Page.isWord_keys hp) (Page.isWord_keys hp')
      begins_end begins_end hbehind
    exact ⟨rfl, hpage⟩
  · rintro ⟨rfl, hpage⟩
    rw [hpage]

/-- **Statements on nodes are faithful.**  Two creations are equal only for equal labels and data.
Two deletions are equal exactly for equal labels and filters, where an absent filter counts as an
empty one.  Two changes are equal only for equal selectors, data and modes.  Two searches are equal
exactly for equal selectors and pages that come down to the same.  Labels and names in filters have
to be words, sort names have to be names, and numbers in filters have to be integers. -/
theorem nodeStatements_eq_iff :
    (∀ {names names' : List String} {data data' : Properties},
      (∀ s ∈ names, IsWord s) → (∀ s ∈ names', IsWord s) →
      (createNode names data = createNode names' data' ↔ names = names' ∧ data = data')) ∧
    (∀ {s s' : NodeSelector}, s.IsReadable → s'.IsReadable →
      (deleteNodes s = deleteNodes s'
        ↔ s.labels = s'.labels ∧ s.filter.getD ∅ = s'.filter.getD ∅)) ∧
    (∀ {s s' : NodeSelector} {data data' : Properties} {mode mode' : WriteMode},
      s.IsReadable → s'.IsReadable →
      (setNodes s data mode = setNodes s' data' mode' ↔ s = s' ∧ data = data' ∧ mode = mode')) ∧
    (∀ {s s' : NodeSelector} {p p' : Option Paging}, s.IsReadable → s'.IsReadable →
      (∀ x ∈ pageNames p, IsName x) → (∀ x ∈ pageNames p', IsName x) →
      (findNodes s p = findNodes s' p' ↔ s = s' ∧ pageOf p = pageOf p')) :=
  ⟨createNode_eq_iff, fun h h' => deleteNodes_eq_iff h.1 h'.1, setNodes_eq_iff, findNodes_eq_iff⟩

/-- Nodes found by a value in which a string looks like the end of the statement. -/
def lookalike (name : String) : NodeSelector :=
  { labels := ["Person"]
    filter := some (.ofList [("tags", .array [.string name, .object [("a", .number (.int 1))]])]) }

/-- The first ten, by nested sort orders or by a flat one, with a direction said or not. -/
def firstTen (nested : Bool) : Paging :=
  { order := some (.sequence (if nested
      then [.sequence [.bare "name"], .sequence [], .directed "age" true]
      else [.directed "name" false, .directed "age" true]))
    offset := some (if nested then 0 else -1)
    limit := some 10 }

/-- Labels do not run together; an empty filter is none; a string does not end the text; a nested
sort order is a flat one. -/
theorem nodeStatements_eq_iff_lookalike :
    createNode ["A", "B"] ∅ ≠ createNode ["AB"] ∅ ∧
    deleteNodes { labels := ["A"] } = deleteNodes { labels := ["A"], filter := some ∅ } ∧
    setNodes (lookalike "\"\x7d) SET n = \x7b\x7d") ∅ .merge ≠ setNodes (lookalike "") ∅ .merge ∧
    findNodes (lookalike "\"") (some (firstTen true))
      = findNodes (lookalike "\"") (some (firstTen false)) := by
  obtain ⟨hcreate, hdelete, hset, hfind⟩ := nodeStatements_eq_iff
  refine ⟨fun h => ?_, ?_, fun h => ?_, ?_⟩
  · have hlabels := ((hcreate (by decide) (by decide)).mp h).1
    exact absurd hlabels (by decide)
  · exact (hdelete (by decide) (by decide)).mpr ⟨rfl, rfl⟩
  · have hselector := ((hset (by decide) (by decide)).mp h).1
    simp [lookalike, Properties.ofList, Entries.ofList, Entries.put] at hselector
  · exact (hfind (by decide) (by decide) (by decide) (by decide)).mpr ⟨rfl, by decide⟩

end Cypher

end PropertyGraph
