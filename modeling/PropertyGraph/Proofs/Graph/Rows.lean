import Mathlib.Data.List.Induction
import Mathlib.Data.Set.Card
import PropertyGraph.Graph.Row
import PropertyGraph.Proofs.Json.Names

/-!
# Rows are ordered maps

A row that is built by writing and removing columns has each name once.  What it holds can be read
off the edits that made it: a column is there when the last edit of its name writes it, its value is
the one written then, and it stands at the place where it was inserted.  Writing a column that is
there is not an insertion, so it keeps its place; a column that was removed and written again was
inserted anew.

## Main definitions

* `Row.Edit`, `Row.edited` — writing or removing a column, and the row that edits make.
* `Row.Keeps` — the edits write a value to a column and leave it there.
* `Row.InsertedAt` — the edit that inserted a column which is still there.
* `Row.Follows` — a row holds what edits have left in it.

## Main results

* `Row.Follows.edit` — one more edit.
* `Row.follows_edited` — **a row holds what its edits have left in it.**
* `Row.ordered_map` — **rows are ordered maps.**
-/

namespace PropertyGraph

/-! ### Removing a name -/

namespace Entries

variable {α : Type} {name other : String} {entries : Entries α}

theorem keys_remove (name : String) (entries : Entries α) :
    keys (remove name entries) = (keys entries).erase name := by
  induction entries with
  | nil => rfl
  | cons e rest ih =>
    obtain ⟨k, v⟩ := e
    rw [remove, keys_cons, List.erase_cons]
    by_cases h : k = name
    · simp [h]
    · simp [h, ih]

theorem get?_remove_of_ne (h : other ≠ name) :
    get? other (remove name entries) = get? other entries := by
  induction entries with
  | nil => rfl
  | cons e rest ih =>
    obtain ⟨k, v⟩ := e
    by_cases hk : k = name
    · rw [remove, if_pos hk, get?, if_neg (hk ▸ Ne.symm h)]
    · rw [remove, if_neg hk, get?, get?, ih]

/-- A removed name is gone, where names are distinct. -/
theorem get?_remove_self (h : (keys entries).Nodup) : get? name (remove name entries) = none := by
  rw [get?_eq_none_iff, keys_remove, h.mem_erase_iff]
  exact fun hname => hname.1 rfl

end Entries

namespace Row

variable {r : Row} {c a b : String} {v w : Value} {i j : Nat}

/-! ### Edits -/

/-- Writing or removing one column. -/
inductive Edit where
  /-- The column is written. -/
  | set (name : String) (value : Value)
  /-- The column is removed. -/
  | pop (name : String)

/-- The column that an edit writes or removes. -/
def Edit.column : Edit → String
  | .set name _ => name
  | .pop name => name

/-- The row after an edit. -/
def edit (r : Row) : Edit → Row
  | .set name value => r.set name value
  | .pop name => (r.pop name).2

/-- The row that edits make, one after another, from a row without columns. -/
def edited (edits : List Edit) : Row :=
  edits.foldl edit {}

variable {edits : List Edit} {e : Edit}

theorem edited_concat (edits : List Edit) (e : Edit) :
    edited (edits ++ [e]) = (edited edits).edit e := by
  unfold edited
  rw [List.foldl_append]
  rfl

/-! ### What edits leave in a row -/

/-- The edits write a value to a column and leave it there: no later edit writes or removes the
column. -/
def Keeps (edits : List Edit) (c : String) (v : Value) : Prop :=
  ∃ before after, edits = before ++ .set c v :: after ∧ ∀ e ∈ after, e.column ≠ c

/-- The edit at a position inserts a column that is still there: the column was not there before,
and no later edit removes it. -/
def InsertedAt (edits : List Edit) (c : String) (i : Nat) : Prop :=
  ∃ before v after, edits = before ++ .set c v :: after ∧ before.length = i ∧
    (∀ w, ¬Keeps before c w) ∧ .pop c ∉ after

theorem not_keeps_nil : ¬Keeps [] c v := by
  rintro ⟨before, after, h, -⟩
  simp at h

/-- An edit in a list is the last one, or it is one of those before. -/
theorem concat_eq_append_cons {x : Edit} {before after : List Edit} :
    edits ++ [e] = before ++ x :: after ↔
      (before = edits ∧ x = e ∧ after = []) ∨
      ∃ init, after = init ++ [e] ∧ edits = before ++ x :: init := by
  constructor
  · intro h
    rcases after.eq_nil_or_concat with rfl | ⟨init, last, rfl⟩
    · obtain ⟨rfl, hlast⟩ := List.append_inj' h rfl
      obtain rfl := List.head_eq_of_cons_eq hlast
      exact .inl ⟨rfl, rfl, rfl⟩
    · rw [List.concat_eq_append, ← List.cons_append, ← List.append_assoc] at h
      obtain ⟨rfl, hlast⟩ := List.append_inj' h rfl
      obtain rfl := List.head_eq_of_cons_eq hlast
      exact .inr ⟨init, List.concat_eq_append, rfl⟩
  · rintro (⟨rfl, rfl, rfl⟩ | ⟨init, rfl, rfl⟩)
    · rfl
    · simp

/-- The last edit decides about its own column, and leaves the others as they are. -/
theorem keeps_concat :
    Keeps (edits ++ [e]) c v ↔ e = .set c v ∨ e.column ≠ c ∧ Keeps edits c v := by
  constructor
  · rintro ⟨before, after, h, hafter⟩
    rcases concat_eq_append_cons.mp h with ⟨-, rfl, -⟩ | ⟨init, rfl, rfl⟩
    · exact .inl rfl
    · rw [List.forall_mem_append] at hafter
      exact .inr ⟨hafter.2 e (List.mem_singleton_self e), before, init, rfl, hafter.1⟩
  · rintro (rfl | ⟨hcolumn, before, after, rfl, hafter⟩)
    · exact ⟨edits, [], rfl, by simp⟩
    · refine ⟨before, after ++ [e], by simp, ?_⟩
      rw [List.forall_mem_append]
      exact ⟨hafter, by simpa using hcolumn⟩

/-- The last edit inserts a column that was not there, and it may remove one; the columns that stay
were inserted where they were. -/
theorem insertedAt_concat :
    InsertedAt (edits ++ [e]) c i ↔
      (InsertedAt edits c i ∧ e ≠ .pop c) ∨
      (i = edits.length ∧ (∃ v, e = .set c v) ∧ ∀ w, ¬Keeps edits c w) := by
  constructor
  · rintro ⟨before, v, after, h, hlength, hnew, hafter⟩
    rcases concat_eq_append_cons.mp h with ⟨rfl, rfl, -⟩ | ⟨init, rfl, rfl⟩
    · exact .inr ⟨hlength.symm, ⟨v, rfl⟩, hnew⟩
    · rw [List.mem_append, not_or, List.mem_singleton] at hafter
      exact .inl ⟨⟨before, v, init, rfl, hlength, hnew, hafter.1⟩, Ne.symm hafter.2⟩
  · rintro (⟨⟨before, v, after, rfl, hlength, hnew, hafter⟩, he⟩ | ⟨rfl, ⟨v, rfl⟩, hnew⟩)
    · refine ⟨before, v, after ++ [e], by simp, hlength, hnew, ?_⟩
      rw [List.mem_append, not_or, List.mem_singleton]
      exact ⟨hafter, Ne.symm he⟩
    · exact ⟨edits, v, [], rfl, rfl, hnew, List.not_mem_nil⟩

theorem InsertedAt.lt_length (h : InsertedAt edits c i) : i < edits.length := by
  obtain ⟨before, v, after, rfl, rfl, -⟩ := h
  simp

/-- A column is there exactly when some edit inserted it and none has removed it since. -/
theorem exists_keeps_iff : (∃ v, Keeps edits c v) ↔ ∃ i, InsertedAt edits c i := by
  induction edits using List.reverseRecOn with
  | nil =>
    constructor
    · rintro ⟨v, h⟩
      exact absurd h not_keeps_nil
    · rintro ⟨i, h⟩
      exact absurd h.lt_length (Nat.not_lt_zero i)
  | append_singleton edits e ih =>
    simp only [keeps_concat, insertedAt_concat]
    constructor
    · rintro ⟨v, rfl | ⟨hcolumn, hkeeps⟩⟩
      · by_cases hthere : ∃ w, Keeps edits c w
        · obtain ⟨i, hi⟩ := ih.mp hthere
          exact ⟨i, .inl ⟨hi, by simp⟩⟩
        · exact ⟨_, .inr ⟨rfl, ⟨v, rfl⟩, not_exists.mp hthere⟩⟩
      · obtain ⟨i, hi⟩ := ih.mp ⟨v, hkeeps⟩
        refine ⟨i, .inl ⟨hi, ?_⟩⟩
        rintro rfl
        exact hcolumn rfl
    · rintro ⟨i, ⟨hi, he⟩ | ⟨-, ⟨v, rfl⟩, -⟩⟩
      · by_cases hcolumn : e.column = c
        · -- the edit is of this column and does not remove it, so it writes it
          cases e with
          | set name v => exact ⟨v, .inl (by rw [← hcolumn]; rfl)⟩
          | pop name => exact absurd (congrArg Edit.pop hcolumn) he
        · obtain ⟨v, hv⟩ := ih.mpr ⟨i, hi⟩
          exact ⟨v, .inr ⟨hcolumn, hv⟩⟩
      · exact ⟨v, .inl rfl⟩

/-- Of two columns that are there, the first was inserted before the second. -/
def InsertedBefore (edits : List Edit) (a b : String) : Prop :=
  ∃ i j, InsertedAt edits a i ∧ InsertedAt edits b j ∧ i < j

/-- Writing a column that is there inserts nothing. -/
theorem insertedBefore_set_of_keeps (h : Keeps edits c w) :
    InsertedBefore (edits ++ [.set c v]) a b ↔ InsertedBefore edits a b := by
  have hsame : ∀ x i, InsertedAt (edits ++ [.set c v]) x i ↔ InsertedAt edits x i := by
    intro x i
    rw [insertedAt_concat]
    constructor
    · rintro (⟨hi, -⟩ | ⟨-, ⟨u, hu⟩, hnew⟩)
      · exact hi
      · cases hu
        exact absurd h (hnew w)
    · exact fun hi => .inl ⟨hi, by simp⟩
  simp only [InsertedBefore, hsame]

/-- Writing a column that is not there inserts it behind all others. -/
theorem insertedBefore_set_of_not_keeps (h : ∀ w, ¬Keeps edits c w) :
    InsertedBefore (edits ++ [.set c v]) a b ↔
      InsertedBefore edits a b ∨ (∃ u, Keeps edits a u) ∧ b = c := by
  have hadded : ∀ x i, InsertedAt (edits ++ [.set c v]) x i ↔
      InsertedAt edits x i ∨ i = edits.length ∧ x = c := by
    intro x i
    rw [insertedAt_concat]
    constructor
    · rintro (⟨hi, -⟩ | ⟨rfl, ⟨u, hu⟩, -⟩)
      · exact .inl hi
      · cases hu
        exact .inr ⟨rfl, rfl⟩
    · rintro (hi | ⟨rfl, rfl⟩)
      · exact .inl ⟨hi, by simp⟩
      · exact .inr ⟨rfl, ⟨v, rfl⟩, h⟩
  simp only [InsertedBefore, hadded, exists_keeps_iff]
  constructor
  · rintro ⟨i, j, hi | ⟨rfl, -⟩, hj | ⟨rfl, hb⟩, hlt⟩
    · exact .inl ⟨i, j, hi, hj, hlt⟩
    · exact .inr ⟨⟨i, hi⟩, hb⟩
    · exact absurd hj.lt_length (Nat.not_lt_of_lt hlt)
    · exact absurd hlt (Nat.lt_irrefl _)
  · rintro (⟨i, j, hi, hj, hlt⟩ | ⟨⟨i, hi⟩, hb⟩)
    · exact ⟨i, j, .inl hi, .inl hj, hlt⟩
    · exact ⟨i, edits.length, .inl hi, .inr ⟨rfl, hb⟩, hi.lt_length⟩

/-- Removing a column leaves the others where they were inserted. -/
theorem insertedBefore_pop :
    InsertedBefore (edits ++ [.pop c]) a b ↔ InsertedBefore edits a b ∧ a ≠ c ∧ b ≠ c := by
  have hothers : ∀ x i, InsertedAt (edits ++ [.pop c]) x i ↔ InsertedAt edits x i ∧ x ≠ c := by
    intro x i
    rw [insertedAt_concat]
    simp [eq_comm]
  simp only [InsertedBefore, hothers]
  constructor
  · rintro ⟨i, j, ⟨hi, ha⟩, ⟨hj, hb⟩, hlt⟩
    exact ⟨⟨i, j, hi, hj, hlt⟩, ha, hb⟩
  · rintro ⟨⟨i, j, hi, hj, hlt⟩, ha, hb⟩
    exact ⟨i, j, ⟨hi, ha⟩, ⟨hj, hb⟩, hlt⟩

/-! ### Rows and their edits -/

/-- A row holds what edits have left in it. -/
structure Follows (r : Row) (edits : List Edit) : Prop where
  /-- No name repeats. -/
  nodup : r.names.Nodup
  /-- Each column has the value that was written last, unless it was removed. -/
  get?_iff : ∀ c v, r.get? c = some v ↔ Keeps edits c v
  /-- The columns stand in the order in which they were inserted. -/
  before_iff : ∀ a b, [a, b].Sublist r.names ↔ InsertedBefore edits a b

theorem mem_names_iff : c ∈ r.names ↔ ∃ v, r.get? c = some v := by
  rw [← Option.ne_none_iff_exists', ne_eq, get?, Entries.get?_eq_none_iff, not_not]
  rfl

theorem Follows.mem_names_iff (h : r.Follows edits) : c ∈ r.names ↔ ∃ v, Keeps edits c v := by
  simp only [Row.mem_names_iff, h.get?_iff]

theorem names_set_of_mem (h : c ∈ r.names) : (r.set c v).names = r.names :=
  (Entries.keys_put c v r.columns).trans (if_pos h)

theorem names_set_of_notMem (h : c ∉ r.names) : (r.set c v).names = r.names ++ [c] :=
  (Entries.keys_put c v r.columns).trans (if_neg h)

theorem names_pop (h : r.names.Nodup) : (r.pop c).2.names = r.names.filter (· ≠ c) := by
  show Entries.keys (r.columns.remove c) = _
  rw [Entries.keys_remove, ← names, h.erase_eq_filter]
  refine List.filter_congr fun k _ => ?_
  simp [bne, beq_eq_decide]

/-- Writing a column changes the value of this column only. -/
theorem get?_set_eq_some_iff :
    (r.set c v).get? a = some w ↔ (a = c ∧ w = v) ∨ a ≠ c ∧ r.get? a = some w := by
  by_cases ha : a = c
  · subst ha
    rw [get?, set, Entries.get?_put_self]
    simp [eq_comm]
  · rw [get?, set, Entries.get?_put_of_ne v r.columns ha]
    simp [ha, get?]

/-- Removing a column makes this column absent, and no other. -/
theorem get?_pop_eq_some_iff (h : r.names.Nodup) :
    (r.pop c).2.get? a = some w ↔ a ≠ c ∧ r.get? a = some w := by
  show Entries.get? a (r.columns.remove c) = some w ↔ _
  by_cases ha : a = c
  · subst ha
    rw [Entries.get?_remove_self h]
    simp
  · rw [Entries.get?_remove_of_ne ha]
    simp [ha, get?]

theorem pair_sublist_concat_iff {names : List String} :
    [a, b].Sublist (names ++ [c]) ↔ [a, b].Sublist names ∨ a ∈ names ∧ b = c := by
  rw [List.sublist_append_iff]
  constructor
  · rintro ⟨front, back, heq, hfront, hback⟩
    rcases List.sublist_singleton.mp hback with rfl | rfl
    · rw [List.append_nil] at heq
      exact .inl (heq ▸ hfront)
    · have hconcat : [a] ++ [b] = front ++ [c] := heq
      obtain ⟨rfl, hb⟩ := List.append_inj' hconcat rfl
      exact .inr ⟨List.singleton_sublist.mp hfront, List.head_eq_of_cons_eq hb⟩
  · rintro (h | ⟨ha, rfl⟩)
    · exact ⟨[a, b], [], rfl, h, List.nil_sublist _⟩
    · exact ⟨[a], [b], rfl, List.singleton_sublist.mpr ha, .refl _⟩

theorem pair_sublist_filter_iff {names : List String} :
    [a, b].Sublist (names.filter (· ≠ c)) ↔ [a, b].Sublist names ∧ a ≠ c ∧ b ≠ c := by
  constructor
  · intro h
    have ha := List.of_mem_filter (h.subset (List.mem_cons_self ..))
    have hb := List.of_mem_filter (h.subset (List.mem_cons_of_mem _ (List.mem_cons_self ..)))
    exact ⟨h.trans List.filter_sublist, by simpa using ha, by simpa using hb⟩
  · rintro ⟨h, ha, hb⟩
    have hfilter := h.filter (· ≠ c)
    rwa [List.filter_cons_of_pos (by simpa using ha), List.filter_cons_of_pos (by simpa using hb),
      List.filter_nil] at hfilter

theorem follows_nil : Follows {} [] where
  nodup := List.nodup_nil
  get?_iff := fun c v => by
    constructor
    · intro h
      cases h
    · exact fun h => absurd h not_keeps_nil
  before_iff := fun a b => by
    constructor
    · intro h
      cases List.eq_nil_of_sublist_nil h
    · rintro ⟨i, j, hi, -⟩
      exact absurd hi.lt_length (Nat.not_lt_zero i)

/-- **One more edit** and the row holds what the edits have left in it. -/
theorem Follows.edit (h : r.Follows edits) (e : Edit) : (r.edit e).Follows (edits ++ [e]) := by
  cases e with
  | set c v =>
    show (r.set c v).Follows (edits ++ [.set c v])
    have hget : ∀ a w, (r.set c v).get? a = some w ↔ Keeps (edits ++ [.set c v]) a w := by
      intro a w
      rw [get?_set_eq_some_iff, keeps_concat, h.get?_iff]
      simp [Edit.column, eq_comm]
    -- a column that is there keeps its place, and any other one goes to the end
    by_cases hc : c ∈ r.names
    · obtain ⟨w, hw⟩ := h.mem_names_iff.mp hc
      refine ⟨?_, hget, fun a b => ?_⟩
      · rw [names_set_of_mem hc]
        exact h.nodup
      · rw [names_set_of_mem hc, h.before_iff, insertedBefore_set_of_keeps hw]
    · have hnew : ∀ w, ¬Keeps edits c w := fun w hw => hc (h.mem_names_iff.mpr ⟨w, hw⟩)
      refine ⟨Entries.nodup_keys_put h.nodup, hget, fun a b => ?_⟩
      rw [names_set_of_notMem hc, pair_sublist_concat_iff, h.before_iff, h.mem_names_iff,
        insertedBefore_set_of_not_keeps hnew]
  | pop c =>
    show (r.pop c).2.Follows (edits ++ [.pop c])
    refine ⟨?_, fun a w => ?_, fun a b => ?_⟩
    · rw [names_pop h.nodup]
      exact h.nodup.filter _
    · rw [get?_pop_eq_some_iff h.nodup, keeps_concat, h.get?_iff]
      simp [Edit.column, eq_comm]
    · rw [names_pop h.nodup, pair_sublist_filter_iff, h.before_iff, insertedBefore_pop]

/-- **A row holds what its edits have left in it.** -/
theorem follows_edited (edits : List Edit) : (edited edits).Follows edits := by
  induction edits using List.reverseRecOn with
  | nil => exact follows_nil
  | append_singleton edits e ih =>
    rw [edited_concat]
    exact ih.edit e

/-- There are as many columns as names that the edits keep. -/
theorem Follows.size_eq (h : r.Follows edits) : r.size = {c | ∃ v, Keeps edits c v}.ncard := by
  have hset : {c | ∃ v, Keeps edits c v} = ↑r.names.toFinset := by
    ext c
    rw [Set.mem_ofPred_eq, ← h.mem_names_iff, List.coe_toFinset, Set.mem_ofPred_eq]
  rw [hset, Set.ncard_coe_finset, List.toFinset_card_of_nodup h.nodup]
  exact (List.length_map Prod.fst).symm

/-- **Rows are ordered maps.**  In a row that edits have made, each name stands once.  A column has
the value that was written last, and is absent when it was never written or has been removed since.
Removing a column gives the value that reading it would have given, and makes it absent.  The
columns stand in the order in which they were inserted: writing one that is there keeps all places,
and removing one leaves the order and the values of the others.  There are as many columns as names
that have a value, and a row without columns is one of size zero. -/
theorem ordered_map (edits : List Edit) :
    (edited edits).names.Nodup ∧
    (∀ c v, (edited edits).get? c = some v ↔ Keeps edits c v) ∧
    (∀ c, ((edited edits).pop c).1 = (edited edits).get? c ∧
      ((edited edits).pop c).2.get? c = none ∧ (((edited edits).pop c).2.pop c).1 = none) ∧
    (∀ a b, [a, b].Sublist (edited edits).names ↔ InsertedBefore edits a b) ∧
    (∀ c ∈ (edited edits).names, ∀ v, ((edited edits).set c v).names = (edited edits).names) ∧
    (∀ c, ((edited edits).pop c).2.names = (edited edits).names.filter (· ≠ c) ∧
      ∀ other, other ≠ c → ((edited edits).pop c).2.get? other = (edited edits).get? other) ∧
    (edited edits).size = {c | ∃ v, Keeps edits c v}.ncard ∧
    ((edited edits).isEmpty = true ↔ (edited edits).size = 0) := by
  have h := follows_edited edits
  have hgone : ∀ c, ((edited edits).pop c).2.get? c = none := fun c =>
    Entries.get?_remove_self h.nodup
  refine ⟨h.nodup, h.get?_iff, fun c => ⟨rfl, hgone c, hgone c⟩, h.before_iff,
    fun c hc v => names_set_of_mem hc, fun c => ⟨names_pop h.nodup, fun other hother => ?_⟩,
    h.size_eq, ?_⟩
  · exact Entries.get?_remove_of_ne hother
  · rw [isEmpty, List.isEmpty_iff, size, List.length_eq_zero_iff]

/-- Columns of which one is written twice, and one is removed and written again. -/
def reinsertedColumn : List Edit :=
  [.set "n" .null, .set "m" (.int 1), .set "m" (.int 2), .pop "n", .set "k" .null, .set "n" .null]

/-- The column that was written again stands last, and the one that was overwritten first. -/
theorem ordered_map_reinsertedColumn :
    (edited reinsertedColumn).names = ["m", "k", "n"] ∧
    Keeps reinsertedColumn "m" (.int 2) ∧
    InsertedBefore reinsertedColumn "k" "n" ∧ ¬InsertedBefore reinsertedColumn "n" "m" ∧
    ((edited reinsertedColumn).set "m" .null).names = (edited reinsertedColumn).names ∧
    ((edited reinsertedColumn).pop "k").2.get? "m" = (edited reinsertedColumn).get? "m" ∧
    {c | ∃ v, Keeps reinsertedColumn c v}.ncard = 3 := by
  have hnames : (edited reinsertedColumn).names = ["m", "k", "n"] := by decide
  obtain ⟨-, hkeeps, -, hbefore, hset, hpop, hsize, -⟩ := ordered_map reinsertedColumn
  refine ⟨hnames, (hkeeps _ _).mp rfl, (hbefore _ _).mp ?_, fun h => ?_, hset _ ?_ _,
    (hpop _).2 _ (by decide), hsize.symm⟩
  · rw [hnames]
    decide
  · have hsublist := (hbefore _ _).mpr h
    rw [hnames] at hsublist
    exact absurd hsublist (by decide)
  · rw [hnames]
    exact List.mem_cons_self ..

end Row

end PropertyGraph
