import PropertyGraph.Proofs.Command
import PropertyGraph.Proofs.Json.Unambiguous
import PropertyGraph.Cypher.RelationStatement

/-!
# The parts of a query text are readable

Labels, properties, selectors, anchors and clauses are each written so that they can be told
from what follows them in a query text.  Names have to be made of letters, digits and underscores,
and numbers in values have to be integers.

## Main definitions

* `Properties.IsReadable`, `NodeSelector.IsReadable` — the names are words and the numbers integers.

## Main results

* `readable_labels`, `readable_literals`, `readable_selector` — what stands in a pattern.
* `readable_anchor_node`, `readable_anchor_condition` — a variable with an identity.
* `readable_listed` — a clause with its items.
-/

namespace PropertyGraph

open Text

/-- The names are words, and the numbers in the values are integers. -/
def Properties.IsReadable (m : Properties) : Prop :=
  ∀ e ∈ m.entries, IsWord e.1 ∧ e.2.isIntegral = true

instance : DecidablePred Properties.IsReadable := fun m =>
  inferInstanceAs (Decidable (∀ e ∈ m.entries, _))

/-- The labels are words, and so are the names in the filter; its numbers are integers. -/
def NodeSelector.IsReadable (s : NodeSelector) : Prop :=
  (∀ l ∈ s.labels, IsWord l) ∧ ∀ m ∈ s.filter, m.IsReadable

instance : DecidablePred NodeSelector.IsReadable := fun _ =>
  inferInstanceAs (Decidable (_ ∧ _))

namespace Cypher

/-! ### Labels -/

theorem labels_cons (name : String) (names : List String) :
    labels (name :: names) = ":" ++ name ++ labels names := by
  unfold labels
  cases names with
  | nil => simp
  | cons other names => simp [String.intercalate_cons_cons]

theorem begins_labels {words : List String} {r : String} (hr : Begins words r)
    (names : List String) : Begins (":" :: words) (labels names ++ r) := by
  cases names with
  | nil =>
    have hempty : labels [] ++ r = r := String.empty_append
    rw [hempty]
    exact hr.mono fun w hw => List.mem_cons_of_mem _ hw
  | cons name names =>
    rw [labels_cons, String.append_assoc, String.append_assoc]
    exact .of_mem (List.mem_cons_self ..) _

/-- **Labels are readable** in front of a word that goes on with no letter and no colon. -/
theorem readable_labels (words : List String) (hw : ∀ w ∈ words, Breaks isWordChar w)
    (hc : ∀ w ∈ words, Clash ":" w) :
    Readable (fun names : List String => ∀ s ∈ names, IsWord s) labels words := by
  have hbreaks : ∀ w ∈ ":" :: words, Breaks isWordChar w :=
    List.forall_mem_cons.mpr ⟨by decide, hw⟩
  -- by induction on the first list of names, of which each one has a colon in front
  intro xs
  induction xs with
  | nil =>
    rintro (_ | ⟨y, ys⟩) hx hy r s hr hs heq
    · exact ⟨rfl, (String.append_right_inj _).mp heq⟩
    · rw [labels_cons, String.append_assoc, String.append_assoc] at heq
      exact absurd (String.empty_append ▸ heq) (hr.ne_append hc _)
  | cons x xs ih =>
    rintro (_ | ⟨y, ys⟩) hx hy r s hr hs heq
    · rw [labels_cons, String.append_assoc, String.append_assoc] at heq
      exact absurd (String.empty_append ▸ heq).symm (hs.ne_append hc _)
    · simp only [labels_cons, String.append_assoc] at heq
      obtain ⟨hname, hbehind⟩ := readable_run _ hbreaks (hx x (List.mem_cons_self ..))
        (hy y (List.mem_cons_self ..)) (begins_labels hr xs) (begins_labels hs ys)
        ((String.append_right_inj _).mp heq)
      obtain ⟨hrest, hrs⟩ := ih (fun z hz => hx z (List.mem_cons_of_mem _ hz))
        (fun z hz => hy z (List.mem_cons_of_mem _ hz)) hr hs hbehind
      exact ⟨by rw [hname, hrest], hrs⟩

/-! ### Properties -/

theorem readable_literal (words : List String)
    (h : ∀ w ∈ words, Breaks Decimal.isIntegerChar w) :
    Readable (fun e : String × Json => IsWord e.1 ∧ e.2.isIntegral = true)
      (fun e => literal e.1 e.2) words := by
  rintro ⟨k, v⟩ ⟨l, w⟩ hx hy r s hr hs heq
  simp only [literal, String.append_assoc] at heq
  obtain ⟨rfl, hbehind⟩ := readable_run [": "] (by decide) hx.1 hy.1
    (.self _ _) (.self _ _) heq
  obtain ⟨rfl, hrs⟩ := Json.readable_text h hx.2 hy.2 hr hs
    ((String.append_right_inj _).mp hbehind)
  exact ⟨rfl, hrs⟩

theorem literals_empty : literals Properties.empty = noProperties := rfl

theorem literals_of_ne_empty {m : Properties} (h : m ≠ Properties.empty) :
    literals m
      = "\x7b " ++ (", ".intercalate (m.entries.map fun e => literal e.1 e.2) ++ " \x7d") := by
  have hm : ¬m.isEmpty = true := fun he => h ((Properties.isEmpty_iff m).mp he)
  unfold literals
  rw [if_neg hm, braced, String.append_assoc]

/-- **Literals are readable**, whatever follows them, because of their braces. -/
theorem readable_literals (words : List String) :
    Readable Properties.IsReadable literals words := by
  intro m n hm hn r s hr hs heq
  have hclash : Clash noProperties "\x7b " := by decide
  by_cases hme : m = Properties.empty
  · by_cases hne : n = Properties.empty
    · subst hme hne
      exact ⟨rfl, (String.append_right_inj _).mp heq⟩
    · rw [hme, literals_empty, literals_of_ne_empty hne, String.append_assoc] at heq
      exact absurd heq (hclash.append_ne _ _)
  · by_cases hne : n = Properties.empty
    · rw [hne, literals_empty, literals_of_ne_empty hme, String.append_assoc] at heq
      exact absurd heq.symm (hclash.append_ne _ _)
    · simp only [literals_of_ne_empty hme, literals_of_ne_empty hne, String.append_assoc] at heq
      -- both have items, which end at the closing brace
      have hitems := (readable_literal [", ", " \x7d"] (by decide)).intercalate
        (by decide)
      have hentries : ∀ {p : Properties}, p ≠ Properties.empty → p.entries ≠ [] :=
        fun hp he => hp (Properties.ext he)
      obtain ⟨hmn, hclose⟩ := hitems ⟨hentries hme, hm⟩ ⟨hentries hne, hn⟩
        (.self _ r) (.self _ s)
        ((String.append_right_inj _).mp heq)
      exact ⟨Properties.ext hmn, (String.append_right_inj _).mp hclose⟩

/-- A filter after a space. -/
theorem afterSpace_filterLiterals (filter : Option Properties) :
    afterSpace (filterLiterals filter) = filter.elim "" fun m => " " ++ literals m := by
  cases filter with
  | none => rfl
  | some m =>
    have hne : literals m ≠ "" := by
      unfold literals
      split
      · decide
      · simp [braced]
    exact afterSpace_of_ne_empty hne

/-- What is absent leaves the rest of a text, and what is there begins with its word. -/
theorem begins_optional {α : Type} {write : α → String} {words : List String} {r : String}
    (hr : Begins words r) (pre : String) (o : Option α) :
    Begins (pre :: words) ((o.elim "" fun x => pre ++ write x) ++ r) := by
  cases o with
  | none =>
    rw [Option.elim_none, String.empty_append]
    exact hr.mono fun w hw => List.mem_cons_of_mem _ hw
  | some x =>
    rw [Option.elim_some, String.append_assoc]
    exact .of_mem (List.mem_cons_self ..) _

theorem readable_filter (words : List String) (h : ∀ w ∈ words, Clash " " w) :
    Readable (fun filter : Option Properties => ∀ m ∈ filter, m.IsReadable)
      (fun filter => afterSpace (filterLiterals filter)) words := by
  simp only [afterSpace_filterLiterals]
  exact (readable_literals words).optional h

/-- **A selector is readable** after its variable, in front of a closing parenthesis. -/
theorem readable_selector : Readable NodeSelector.IsReadable NodeSelector.text [")"] := by
  rintro ⟨names, filter⟩ ⟨names', filter'⟩ hx hy r s hr hs heq
  simp only [NodeSelector.text, String.append_assoc] at heq
  obtain ⟨rfl, hbehind⟩ := readable_labels [" ", ")"] (by decide) (by decide) hx.1 hy.1
    (begins_optional hr " " filter) (begins_optional hs " " filter') heq
  obtain ⟨rfl, hrs⟩ := (readable_literals [")"]).optional (by decide) hx.2 hy.2 hr hs hbehind
  exact ⟨rfl, hrs⟩

/-- The pattern of a selector with its filter as literals. -/
theorem nodeWith_filterLiterals (s : NodeSelector) :
    nodeWith s.labels (filterLiterals s.filter) = "(" ++ node ++ (s.text ++ ")") := by
  unfold nodeWith NodeSelector.text
  rw [afterSpace_filterLiterals]
  simp only [String.append_assoc]

/-! ### Anchors -/

theorem readable_int64 (words : List String)
    (h : ∀ w ∈ words, Breaks Decimal.isIntegerChar w) :
    Readable (fun _ : Int64 => True) (fun n => Decimal.text n.toInt) words := by
  intro a b _ _ r s hr hs heq
  obtain ⟨hab, hrs⟩ := Decimal.readable_text h trivial trivial hr hs heq
  exact ⟨Int64.toInt_inj.mp hab, hrs⟩

theorem readable_identity (words : List String)
    (h : ∀ w ∈ words, Breaks Decimal.isIntegerChar w) :
    Readable (fun _ : Identity => True) Identity.text words := by
  rintro ⟨a⟩ ⟨b⟩ _ _ r s hr hs heq
  obtain ⟨rfl, hrs⟩ := readable_int64 words h trivial trivial hr hs heq
  exact ⟨rfl, hrs⟩

/-- A node to start from. -/
theorem readable_anchor_node (words : List String) :
    Readable (fun a : Anchor => IsWord a.var) Anchor.node words := by
  rintro ⟨a, v⟩ ⟨b, w⟩ hx hy r s hr hs heq
  simp only [Anchor.node, String.append_assoc] at heq
  obtain ⟨rfl, hbehind⟩ := readable_run ["=node("] (by decide) hx hy
    (.self _ _) (.self _ _) heq
  obtain ⟨rfl, hclose⟩ := readable_identity [")"] (by decide) trivial trivial
    (.self _ r) (.self _ s)
    ((String.append_right_inj _).mp hbehind)
  exact ⟨rfl, (String.append_right_inj _).mp hclose⟩

/-- A condition on an identity, in front of a space. -/
theorem readable_anchor_condition (words : List String)
    (h : ∀ w ∈ words, Breaks Decimal.isIntegerChar w) :
    Readable (fun a : Anchor => IsWord a.var) Anchor.condition words := by
  rintro ⟨a, v⟩ ⟨b, w⟩ hx hy r s hr hs heq
  simp only [Anchor.condition, String.append_assoc] at heq
  obtain ⟨rfl, hbehind⟩ := readable_run [") = "] (by decide) hx hy
    (.self _ _) (.self _ _)
    ((String.append_right_inj _).mp heq)
  obtain ⟨rfl, hrs⟩ := readable_identity words h trivial trivial hr hs
    ((String.append_right_inj _).mp hbehind)
  exact ⟨rfl, hrs⟩

/-! ### Clauses with their items -/

theorem begins_listed {words : List String} {r : String} (hr : Begins words r)
    (keyword sep : String) (items : List String) :
    Begins ((" " ++ keyword ++ " ") :: words) (afterSpace (listed keyword sep items) ++ r) := by
  cases items with
  | nil =>
    rw [listed_nil, afterSpace_empty, String.empty_append]
    exact hr.mono fun w hw => List.mem_cons_of_mem _ hw
  | cons item items =>
    rw [afterSpace_listed_append]
    exact .of_mem (List.mem_cons_self ..) _

/-- **A clause with its items is readable**, when an item is, in front of words that begin neither
like the clause nor like a separator. -/
theorem readable_listed (keyword sep : String) {α : Type} {ok : α → Prop} {write : α → String}
    {words : List String} (h : Readable ok write (sep :: words))
    (hsep : ∀ w ∈ words, Clash sep w) (hkey : ∀ w ∈ words, Clash (" " ++ keyword ++ " ") w) :
    Readable (fun xs : List α => ∀ x ∈ xs, ok x)
      (fun xs => afterSpace (listed keyword sep (xs.map write))) words := by
  rintro (_ | ⟨x, xs⟩) (_ | ⟨y, ys⟩) hx hy r s hr hs heq
  · exact ⟨rfl, (String.append_right_inj _).mp heq⟩
  · simp only [List.map_nil, listed_nil, afterSpace_empty, String.empty_append, List.map_cons,
      afterSpace_listed_append] at heq
    exact absurd heq (hr.ne_append hkey _)
  · simp only [List.map_nil, listed_nil, afterSpace_empty, String.empty_append, List.map_cons,
      afterSpace_listed_append] at heq
    exact absurd heq.symm (hs.ne_append hkey _)
  · simp only [List.map_cons, afterSpace_listed_append] at heq
    rw [← List.map_cons, ← List.map_cons] at heq
    exact h.intercalate hsep ⟨List.cons_ne_nil _ _, hx⟩ ⟨List.cons_ne_nil _ _, hy⟩ hr hs
      ((String.append_right_inj _).mp heq)

end Cypher

end PropertyGraph
