import PropertyGraph.Cypher.RelationStatement
import PropertyGraph.Proofs.Cypher.Sorting

/-!
# Setting up a page

A page is set up step by step, each step a sort order, an offset or a limit.  Of each kind only the
last step counts, so two neighbouring steps of different kinds may change places.  The clauses of
the page are those of the last steps, as far as they say something, with one space between them; and
one space stands between them and the statement that they are appended to.

## Main definitions

* `Paging.begun` — a page before any step.
* `Paging.Step.kind` — what a step sets.
* `Paging.last` — the last setting of a kind.
* `Cypher.Finder` — the statements that take a page.
* `Cypher.OneSpaceBetween` — a text made of two with exactly one space between them.

## Main results

* `Paging.setAll_field` — a field of a page is its last setting.
* `Paging.clauses_eq` — the clauses of a page are those of its fields.
* `Cypher.Finder.text_statement` — a page is appended to the statement without one.
* `Paging.last_settings_count` — **the last setting of each kind counts**, in any order of kinds.
-/

namespace PropertyGraph

open Cypher

namespace Paging

/-! ### Steps -/

/-- A page before any step: with a limit, or without any setting. -/
def begun : Option Int64 → Paging
  | none => {}
  | some limit => first limit

/-- What a step sets. -/
inductive Step.Kind where
  /-- The sort order. -/
  | order
  /-- The offset. -/
  | offset
  /-- The limit. -/
  | limit
  deriving DecidableEq

namespace Step

/-- What a step sets. -/
def kind : Step → Kind
  | .order _ => .order
  | .offset _ => .offset
  | .limit _ => .limit

/-- The sort order that a step sets, if it sets one. -/
def order? : Step → Option SortOrder
  | .order keys => some keys
  | _ => none

/-- The offset that a step sets, if it sets one. -/
def offset? : Step → Option Int64
  | .offset n => some n
  | _ => none

/-- The limit that a step sets, if it sets one. -/
def limit? : Step → Option Int64
  | .limit n => some n
  | _ => none

end Step

/-- The last setting of a kind, if there is any. -/
def last {α : Type} (setting? : Step → Option α) (steps : List Step) : Option α :=
  (steps.filterMap setting?).getLast?

variable (p : Paging) (steps : List Step) (var : String)

theorem setAll_append (later : List Step) :
    p.setAll (steps ++ later) = (p.setAll steps).setAll later :=
  List.foldl_append

/-- **A field of a page is its last setting**, or what it was before. -/
theorem setAll_field {α : Type} {field : Paging → Option α} {setting? : Step → Option α}
    (h : ∀ p step, field (p.set step) = (setting? step).or (field p)) :
    field (p.setAll steps) = (last setting? steps).or (field p) := by
  induction steps generalizing p with
  | nil => rfl
  | cons step rest ih =>
    show field ((p.set step).setAll rest) = _
    rw [ih, h, last, last]
    -- a step of another kind is passed over; one of this kind counts unless a later one does
    cases hstep : setting? step with
    | none => rw [List.filterMap_cons_none hstep, Option.none_or]
    | some x =>
      rw [List.filterMap_cons_some hstep, List.getLast?_cons]
      cases (rest.filterMap setting?).getLast? <;> rfl

theorem order_setAll : (p.setAll steps).order = (last Step.order? steps).or p.order :=
  p.setAll_field steps fun p step => by cases step <;> rfl

theorem offset_setAll : (p.setAll steps).offset = (last Step.offset? steps).or p.offset :=
  p.setAll_field steps fun p step => by cases step <;> rfl

theorem limit_setAll : (p.setAll steps).limit = (last Step.limit? steps).or p.limit :=
  p.setAll_field steps fun p step => by cases step <;> rfl

/-- Steps of different kinds may change places. -/
theorem set_comm {a b : Step} (h : a.kind ≠ b.kind) : (p.set a).set b = (p.set b).set a := by
  cases a with
  | order =>
    cases b with
    | order => exact absurd rfl h
    | _ => rfl
  | offset =>
    cases b with
    | offset => exact absurd rfl h
    | _ => rfl
  | limit =>
    cases b with
    | limit => exact absurd rfl h
    | _ => rfl

theorem setAll_swap (before after : List Step) {a b : Step} (h : a.kind ≠ b.kind) :
    p.setAll (before ++ b :: a :: after) = p.setAll (before ++ a :: b :: after) := by
  rw [setAll_append, setAll_append]
  show (((p.setAll before).set b).set a).setAll after = _
  rw [← set_comm _ h]
  rfl

/-! ### Clauses -/

/-- The clause of a sort order, when there is something to sort by. -/
def orderTexts : Option SortOrder → List String
  | none => []
  | some order => if order.clause var = "" then [] else [order.clause var]

/-- A keyword with a number, when the number is positive. -/
def countTexts (keyword : String) : Option Int64 → List String
  | none => []
  | some n => if 0 < n.toInt then [keyword ++ " " ++ Decimal.text n.toInt] else []

theorem filter_order (order : Option SortOrder) :
    [order.elim "" (·.clause var)].filter (fun piece => !piece.isEmpty) = orderTexts var order := by
  cases order with
  | none => rfl
  | some order =>
    by_cases h : order.clause var = "" <;> simp [orderTexts, h]

theorem filter_counted (keyword : String) (n : Option Int64) :
    [counted keyword n].filter (fun piece => !piece.isEmpty) = countTexts keyword n := by
  cases n with
  | none => rfl
  | some n => by_cases h : 0 < n.toInt <;> simp [counted, countTexts, h]

/-- **The clauses of a page are those of its fields**, with one space between them. -/
theorem clauses_eq : p.clauses var = " ".intercalate
    (orderTexts var p.order ++ countTexts "SKIP" p.offset ++ countTexts "LIMIT" p.limit) := by
  rw [← filter_order, ← filter_counted, ← filter_counted, ← List.filter_append,
    ← List.filter_append]
  rfl

theorem asksNothing_iff : p.asksNothing = true ↔ p.limit = some 0 := by
  simp [asksNothing]

end Paging

namespace Cypher

/-! ### One space -/

/-- A text made of two, with exactly one space between them. -/
structure OneSpaceBetween (front behind text : String) : Prop where
  /-- The two texts have a space between them. -/
  eq : text = front ++ " " ++ behind
  /-- There is no other space before it. -/
  front : front.toList.getLast? ≠ some ' '
  /-- There is no other space behind it. -/
  behind : behind.toList.head? ≠ some ' '

theorem head?_append {s : String} (h : s ≠ "") (t : String) :
    (s ++ t).toList.head? = s.toList.head? := by
  rw [String.toList_append, List.head?_append_of_ne_nil]
  exact fun hs => h (String.toList_eq_nil_iff.mp hs)

theorem head?_words {pieces : List String}
    (h : ∀ piece ∈ pieces, piece.toList.head? ≠ some ' ') :
    (words pieces).toList.head? ≠ some ' ' := by
  induction pieces with
  | nil => simp [words]
  | cons piece rest ih =>
    obtain ⟨hfirst, hrest⟩ := List.forall_mem_cons.mp h
    by_cases hpiece : piece = ""
    · rw [hpiece, words_empty_cons]
      exact ih hrest
    · rw [words_cons hpiece, head?_append hpiece]
      exact hfirst

theorem head?_counted (keyword : String) (n : Option Int64) (h : keyword ≠ "")
    (hkeyword : keyword.toList.head? ≠ some ' ') :
    (Paging.counted keyword n).toList.head? ≠ some ' ' := by
  cases n with
  | none => simp [Paging.counted]
  | some n =>
    rw [Paging.counted]
    split
    · rw [String.append_assoc, head?_append h]
      exact hkeyword
    · simp

theorem head?_clause (order : SortOrder) (var : String) :
    (order.clause var).toList.head? ≠ some ' ' := by
  rw [SortOrder.clause_eq]
  split
  · simp
  · rw [head?_append (by decide)]
    decide

/-- The clauses of a page begin with a keyword. -/
theorem head?_clauses (p : Paging) (var : String) : (p.clauses var).toList.head? ≠ some ' ' := by
  refine head?_words ?_
  simp only [List.forall_mem_cons]
  refine ⟨?_, head?_counted _ _ (by decide) (by decide), head?_counted _ _ (by decide) (by decide),
    List.forall_mem_nil _⟩
  cases p.order with
  | none => simp
  | some order => exact head?_clause order var

/-! ### Statements with a page -/

/-- The statements that take a page. -/
inductive Finder where
  /-- The nodes of a selector. -/
  | nodes (selector : NodeSelector)
  /-- The relationships of a selector. -/
  | relations (selector : RelationSelector)
  /-- The nodes where relationships to an endpoint start. -/
  | sources (target : Endpoint) (relType : Option String) (filter : Option Properties)
  /-- The nodes where relationships from an endpoint end. -/
  | targets (source : Endpoint) (relType : Option String) (filter : Option Properties)
  /-- The nodes that have a relationship with an endpoint. -/
  | neighbours (other : Endpoint) (relType : Option String) (filter : Option Properties)

namespace Finder

/-- The variable that a finder gives back, by which its results are sorted. -/
def var : Finder → String
  | nodes _ => "n"
  | relations _ => "r"
  | sources .. => "n"
  | targets .. => "m"
  | neighbours .. => "n"

/-- The statement of a finder with a page, or without one. -/
def statement (f : Finder) (paging : Option Paging) : Statement :=
  match f with
  | nodes selector => findNodes selector paging
  | relations selector => findRelations selector paging
  | sources target relType filter => findSources target relType filter paging
  | targets source relType filter => findTargets source relType filter paging
  | neighbours other relType filter => findNeighbours other relType filter paging

theorem text_findEnds (ends : Ends) (var : String) (relType : Option String)
    (filter : Option Properties) (paging : Option Paging) :
    (findEnds ends var relType filter paging).text
      = ends.matched .start .folded relType (filterLiterals filter) ++ " RETURN DISTINCT " ++ var ++
        Paging.suffix paging var := by
  show _ ++ (" RETURN DISTINCT " ++ var) ++ Paging.suffix paging var = _
  rw [← String.append_assoc]

/-- **A page is appended to the statement without one**, which ends with its variable. -/
theorem text_statement (f : Finder) : ∃ lead, ∀ paging,
    (f.statement paging).text = lead ++ f.var ++ Paging.suffix paging f.var := by
  cases f with
  | nodes selector =>
    refine ⟨"MATCH " ++ nodeWith selector.labels (filterLiterals selector.filter) ++ " RETURN ",
      fun paging => ?_⟩
    show _ ++ (" RETURN " ++ "n") ++ Paging.suffix paging "n" = _
    rw [← String.append_assoc]
    rfl
  | relations selector =>
    refine ⟨matching selector .condition ++ " RETURN DISTINCT ", fun paging => ?_⟩
    show _ ++ (" RETURN DISTINCT " ++ "r") ++ Paging.suffix paging "r" = _
    rw [← String.append_assoc]
    rfl
  | sources target relType filter => exact ⟨_, text_findEnds _ _ relType filter⟩
  | targets source relType filter => exact ⟨_, text_findEnds _ _ relType filter⟩
  | neighbours other relType filter => exact ⟨_, text_findEnds _ _ relType filter⟩

/-- Before a page the statement does not end with a space. -/
theorem getLast?_text (f : Finder) : (f.statement none).text.toList.getLast? ≠ some ' ' := by
  obtain ⟨lead, htext⟩ := f.text_statement
  have hvars : ∀ v ∈ ["n", "m", "r"], v.toList ≠ [] ∧ v.toList.getLast? ≠ some ' ' := by decide
  have hvar := hvars f.var (by cases f <;> simp [var])
  have hnone : Paging.suffix none f.var = "" := rfl
  rw [htext none, hnone, String.append_empty, String.toList_append,
    List.getLast?_append_of_ne_nil _ hvar.1]
  exact hvar.2

end Finder

end Cypher

/-- **The last setting of each kind counts.**  The clauses of a page are, with one space between
them, the clause of the last sort order, if it is not empty, the last offset, if it is positive, and
the last limit or else the one at the beginning, if it is positive; the page asks for nothing when
this limit is zero.  Neighbouring steps of different kinds may change places.  A statement with a
page is the one without it when the page has no clauses, and has one space between the two
otherwise. -/
theorem Paging.last_settings_count (initial : Option Int64) (steps : List Step) (var : String) :
    ((begun initial).setAll steps).clauses var = " ".intercalate
      (orderTexts var (last Step.order? steps) ++ countTexts "SKIP" (last Step.offset? steps) ++
        countTexts "LIMIT" ((last Step.limit? steps).or initial)) ∧
    (((begun initial).setAll steps).asksNothing = true ↔
      (last Step.limit? steps).or initial = some 0) ∧
    (∀ before a b after, steps = before ++ a :: b :: after → a.kind ≠ b.kind →
      (begun initial).setAll (before ++ b :: a :: after) = (begun initial).setAll steps) ∧
    ∀ (f : Finder) (p : Paging),
      (p.clauses f.var = "" → (f.statement (some p)).text = (f.statement none).text) ∧
      (p.clauses f.var ≠ "" → OneSpaceBetween (f.statement none).text (p.clauses f.var)
        (f.statement (some p)).text) := by
  have horder : ((begun initial).setAll steps).order = last Step.order? steps := by
    rw [order_setAll]
    cases initial <;> exact Option.or_none
  have hoffset : ((begun initial).setAll steps).offset = last Step.offset? steps := by
    rw [offset_setAll]
    cases initial <;> exact Option.or_none
  have hlimit : ((begun initial).setAll steps).limit = (last Step.limit? steps).or initial := by
    rw [limit_setAll]
    cases initial <;> rfl
  refine ⟨?_, ?_, ?_, fun f p => ?_⟩
  · rw [clauses_eq, horder, hoffset, hlimit]
  · rw [asksNothing_iff, hlimit]
  · rintro before a b after rfl hkind
    exact setAll_swap _ before after hkind
  · obtain ⟨lead, htext⟩ := f.text_statement
    have hnone : (f.statement none).text = lead ++ f.var := by
      rw [htext none]
      exact String.append_empty
    constructor
    · intro hempty
      rw [htext, hnone, suffix, Option.elim_some, hempty, afterSpace_empty, String.append_empty]
    · intro hne
      refine ⟨?_, f.getLast?_text, head?_clauses p f.var⟩
      rw [htext, hnone, suffix, Option.elim_some, afterSpace_of_ne_empty hne, ← String.append_assoc]

/-- Settings that are made again, and sentinels among them. -/
def revisedSteps : List Paging.Step :=
  [.limit 0, .order (.bare "a"), .offset 4, .limit (-1), .offset 2]

/-- What was set first leaves no trace, and neither does a limit that is negative. -/
theorem Paging.last_settings_count_revisedSteps :
    ((begun (some 9)).setAll revisedSteps).clauses "n" = "ORDER BY n.a SKIP 2" ∧
    ((begun (some 9)).setAll revisedSteps).asksNothing ≠ true ∧
    (begun (some 9)).setAll [.order (.bare "a"), .limit 0, .offset 4, .limit (-1), .offset 2]
      = (begun (some 9)).setAll revisedSteps := by
  obtain ⟨hclauses, hnothing, hswap, -⟩ := last_settings_count (some 9) revisedSteps "n"
  refine ⟨hclauses.trans (by decide), fun h => ?_, hswap [] _ _ _ rfl (by decide)⟩
  exact absurd (hnothing.mp h) (by decide)

end PropertyGraph
