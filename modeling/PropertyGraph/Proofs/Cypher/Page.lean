import Mathlib.Data.List.Basic
import PropertyGraph.Proofs.Cypher.Parts

/-!
# What a page comes down to

Of a sort order only the leaves count, each of them a property with a direction; of an offset and a
limit only those that are positive.  What is left is exactly what can be read off the text of a
page.

## Main definitions

* `Page` — sort keys, a positive offset and a positive limit.
* `pageOf` — what an optional page comes down to.

## Main results

* `Paging.suffix_eq` — the text of a page depends only on what it comes down to.
* `Page.readable_text` — **what a page comes down to can be read off its text.**
-/

namespace PropertyGraph

open Text

/-- The property of a leaf and whether the order is falling. -/
def SortOrder.Leaf.key : Leaf → String × Bool
  | .bare name => (name, false)
  | .directed name descending => (name, descending)

/-- What a page comes down to. -/
structure Page where
  /-- The properties to sort by, each with whether the order is falling. -/
  keys : List (String × Bool) := []
  /-- How many results are left out, if any are. -/
  offset : Option Int64 := none
  /-- How many results there are at most, if there is a limit. -/
  limit : Option Int64 := none
  deriving DecidableEq

/-- A number, when it is positive. -/
def positive? (n : Option Int64) : Option Int64 :=
  n.filter fun k => decide (0 < k.toInt)

/-- What a page comes down to. -/
def Paging.page (p : Paging) : Page :=
  { keys := p.order.elim [] fun order => order.leaves.map SortOrder.Leaf.key
    offset := positive? p.offset
    limit := positive? p.limit }

/-- What an optional page comes down to. -/
def pageOf (p : Option Paging) : Page :=
  p.elim {} Paging.page

theorem SortOrder.Leaf.key_fst (leaf : Leaf) : leaf.key.1 = leaf.name := by
  cases leaf <;> rfl

/-- The properties that an optional page is sorted by are those of what it comes down to. -/
theorem map_fst_keys_pageOf (p : Option Paging) : (pageOf p).keys.map Prod.fst = pageNames p := by
  cases p with
  | none => rfl
  | some p =>
    obtain ⟨order, offset, limit⟩ := p
    cases order with
    | none => rfl
    | some order =>
      show (order.leaves.map SortOrder.Leaf.key).map Prod.fst
        = order.leaves.map SortOrder.Leaf.name
      rw [List.map_map]
      exact List.map_congr_left fun leaf _ => leaf.key_fst

namespace Page

/-- One sort key with its variable. -/
def term (var : String) (key : String × Bool) : String :=
  var ++ "." ++ key.1 ++ if key.2 then " DESC" else ""

/-- A number behind a keyword, when it is there. -/
def number (keyword : String) (n : Option Int64) : String :=
  n.elim "" fun k => (" " ++ keyword ++ " ") ++ Decimal.text k.toInt

/-- The clauses of a page, each after a space. -/
def text (var : String) (page : Page) : String :=
  Cypher.afterSpace (Cypher.listed "ORDER BY" ", " (page.keys.map (term var))) ++
    (number "SKIP" page.offset ++ number "LIMIT" page.limit)

end Page

/-! ### The text of a page -/

/-- A leaf with a name makes the term of its key. -/
theorem SortOrder.Leaf.term?_eq {leaf : Leaf} (h : leaf.name ≠ "") (var : String) :
    leaf.term? var = some (Page.term var leaf.key) := by
  cases leaf with
  | bare name =>
    have hname : name.isEmpty = false := Cypher.isEmpty_eq_false h
    unfold term?
    simp [hname, Page.term, key]
  | directed name descending => rfl

theorem SortOrder.terms_eq {order : SortOrder} (h : ∀ leaf ∈ order.leaves, leaf.name ≠ "")
    (var : String) :
    order.terms var = (order.leaves.map SortOrder.Leaf.key).map (Page.term var) := by
  unfold terms
  rw [List.map_map, ← List.filterMap_eq_map]
  exact List.filterMap_congr fun leaf hleaf => SortOrder.Leaf.term?_eq (h leaf hleaf) var

theorem Paging.afterSpace_counted (keyword : String) (n : Option Int64) :
    Cypher.afterSpace (counted keyword n) = Page.number keyword (positive? n) := by
  cases n with
  | none => rfl
  | some k =>
    by_cases hk : 0 < k.toInt
    · have hne : keyword ++ " " ++ Decimal.text k.toInt ≠ "" := by simp
      have hpositive : positive? (some k) = some k := by simp [positive?, hk]
      have hcounted : counted keyword (some k) = keyword ++ " " ++ Decimal.text k.toInt := by
        simp [counted, hk]
      rw [hpositive, hcounted, Cypher.afterSpace_of_ne_empty hne]
      unfold Page.number
      rw [Option.elim_some]
      simp only [String.append_assoc]
    · have hpositive : positive? (some k) = none := by simpa [positive?] using hk
      have hcounted : counted keyword (some k) = "" := by simp [counted, hk]
      rw [hpositive, hcounted]
      rfl

/-- **The text of a page depends only on what it comes down to**, when its sort names are not
empty. -/
theorem Paging.suffix_eq {p : Option Paging} (h : ∀ s ∈ pageNames p, s ≠ "") (var : String) :
    Paging.suffix p var = (pageOf p).text var := by
  cases p with
  | none => rfl
  | some p =>
    obtain ⟨order, offset, limit⟩ := p
    have horder : Cypher.afterSpace (order.elim "" (·.clause var))
        = Cypher.afterSpace (Cypher.listed "ORDER BY" ", "
          ((order.elim [] fun order => order.leaves.map SortOrder.Leaf.key).map
            (Page.term var))) := by
      cases order with
      | none => rfl
      | some order =>
        have hleaves : ∀ leaf ∈ order.leaves, leaf.name ≠ "" :=
          fun leaf hleaf => h leaf.name (List.mem_map_of_mem hleaf)
        rw [Option.elim_some, Option.elim_some, SortOrder.clause, SortOrder.terms_eq hleaves]
    show Cypher.afterSpace (Cypher.words [_, _, _]) = _
    rw [Cypher.afterSpace_words_cons, Cypher.afterSpace_words_cons, Cypher.afterSpace_words_cons,
      Cypher.afterSpace_words_nil, String.append_empty, afterSpace_counted, afterSpace_counted,
      horder]
    rfl

/-! ### Reading a page -/

namespace Page

theorem readable_term (words : List String) (hw : ∀ w ∈ words, Breaks isWordChar w)
    (hd : ∀ w ∈ words, Clash " DESC" w) (var : String) :
    Readable (fun key : String × Bool => IsWord key.1) (term var) words := by
  rintro ⟨name, falling⟩ ⟨name', falling'⟩ hx hy r s hr hs heq
  have hbreaks : ∀ w ∈ " DESC" :: words, Breaks isWordChar w :=
    List.forall_mem_cons.mpr ⟨by decide, hw⟩
  simp only [term, String.append_assoc, String.append_right_inj] at heq
  obtain ⟨rfl, hbehind⟩ := readable_run _ hbreaks hx hy (hr.flag " DESC" falling)
    (hs.flag " DESC" falling') heq
  obtain ⟨rfl, hrs⟩ := Readable.flag " DESC" words hd trivial trivial hr hs hbehind
  exact ⟨rfl, hrs⟩

theorem readable_number (keyword : String) (words : List String)
    (h : ∀ w ∈ words, Breaks Decimal.isIntegerChar w)
    (hkey : ∀ w ∈ words, Clash (" " ++ keyword ++ " ") w) :
    Readable (fun _ : Option Int64 => True) (number keyword) words := by
  intro m n _ _ r s hr hs heq
  have hpresent : ∀ o : Option Int64, ∀ k ∈ o, True := fun _ _ _ => trivial
  exact (Cypher.readable_int64 words h).optional hkey (hpresent m) (hpresent n) hr hs heq

theorem begins_number {words : List String} {r : String} (hr : Begins words r) (keyword : String)
    (n : Option Int64) : Begins ((" " ++ keyword ++ " ") :: words) (number keyword n ++ r) :=
  Cypher.begins_optional hr _ n

/-- **What a page comes down to can be read off its text**, in front of the end of a statement. -/
theorem readable_text (var : String) :
    Readable (fun page : Page => ∀ key ∈ page.keys, IsWord key.1) (text var) [";"] := by
  rintro ⟨keys, offset, limit⟩ ⟨keys', offset', limit'⟩ hx hy r s hr hs heq
  simp only [text, String.append_assoc] at heq
  have hterms := Cypher.readable_listed "ORDER BY" ", "
    (readable_term [", ", " SKIP ", " LIMIT ", ";"] (by decide) (by decide) var)
    (by decide) (by decide)
  obtain ⟨rfl, hnumbers⟩ := hterms hx hy
    (begins_number (begins_number hr "LIMIT" limit) "SKIP" offset)
    (begins_number (begins_number hs "LIMIT" limit') "SKIP" offset') heq
  have hskip := readable_number "SKIP" [" LIMIT ", ";"] (by decide) (by decide)
  obtain ⟨rfl, hlast⟩ := hskip trivial trivial (begins_number hr "LIMIT" limit)
    (begins_number hs "LIMIT" limit') hnumbers
  have hlimit := readable_number "LIMIT" [";"] (by decide) (by decide)
  obtain ⟨rfl, hrs⟩ := hlimit trivial trivial hr hs hlast
  exact ⟨rfl, hrs⟩

/-- The sort keys of a page are words when its sort names are names. -/
theorem isWord_keys {p : Option Paging} (h : ∀ s ∈ pageNames p, IsName s) :
    ∀ key ∈ (pageOf p).keys, IsWord key.1 := by
  intro key hkey
  refine (h key.1 ?_).2
  rw [← map_fst_keys_pageOf]
  exact List.mem_map_of_mem hkey

end Page

end PropertyGraph
