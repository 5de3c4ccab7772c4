import PropertyGraph.Store.Column

/-!
# What readers take from rows

A reader looks at one column only: rows that hold the same in it are read alike.  It fails only on
a value of another kind, and reads one thing from each row when all values are of the kind that it
expects.

## Main definitions

* `Row.column` — what rows hold in a column.

## Main results

* `Reader.each_eq_ok_iff`, `Reader.each_eq_error` — when values can be read, and what the failure is
  otherwise.
* `Reader.first_congr`, `Reader.every_congr`, `Reader.total_congr` — a reader looks at one column.
* `Reader.every_eq_ok` — one thing from each row, in order.
-/

namespace PropertyGraph

/-- What rows hold in a column, one after another: the first value under that name, if there is
one. -/
def Row.column (name : String) (rows : List Row) : List (Option Value) :=
  rows.map (·.get? name)

/-- Rows that all hold a value of one kind in a column hold a list of them. -/
theorem Row.column_eq_map {α : Type} {name : String} {value : α → Value} {rows : List Row}
    (h : ∀ row ∈ rows, ∃ x, row.get? name = some (value x)) :
    ∃ xs : List α, Row.column name rows = xs.map fun x => some (value x) := by
  induction rows with
  | nil => exact ⟨[], rfl⟩
  | cons row rest ih =>
    obtain ⟨x, hx⟩ := h row (List.mem_cons_self ..)
    obtain ⟨xs, hxs⟩ := ih fun row' hmem => h row' (List.mem_cons_of_mem _ hmem)
    refine ⟨x :: xs, ?_⟩
    rw [List.map_cons, ← hxs, ← hx]
    rfl

namespace Reader

variable {α : Type} {e : Reader α} {column : String}

/-! ### Values -/

/-- Values can be read exactly when each of them is of the kind that is expected. -/
theorem each_eq_ok_iff {values : List Value} {xs : List α} :
    e.each column values = .ok xs ↔ values.map e.take? = xs.map some := by
  unfold each
  induction values generalizing xs with
  | nil => cases xs <;> simp [pure, Except.pure]
  | cons v rest ih =>
    rw [List.mapM_cons]
    cases hv : e.take? v with
    | none =>
      have hone : e.one column v = .error (.wrongKind column e.kind v.kind) := by
        rw [one, hv]
      cases xs <;> simp [hone, hv, bind, Except.bind]
    | some x =>
      have hone : e.one column v = .ok x := by rw [one, hv]
      cases hrest : rest.mapM (e.one column) with
      | error f => cases xs <;> simp [hone, hv, bind, Except.bind, ← ih, hrest]
      | ok ys => cases xs <;> simp [hone, hv, bind, Except.bind, pure, Except.pure, ← ih, hrest]

theorem one_eq_error {v : Value} {f : Failure} (h : e.one column v = .error f) :
    f = .wrongKind column e.kind v.kind := by
  unfold one at h
  split at h <;> cases h
  rfl

/-- Values that cannot be read hold one of another kind. -/
theorem each_eq_error {values : List Value} {f : Failure} (h : e.each column values = .error f) :
    ∃ found, f = .wrongKind column e.kind found := by
  unfold each at h
  induction values with
  | nil => cases h
  | cons v rest ih =>
    rw [List.mapM_cons] at h
    cases hv : e.one column v with
    | error f' =>
      rw [hv] at h
      cases h
      exact ⟨v.kind, one_eq_error hv⟩
    | ok x =>
      -- the first value can be read, so that the failure comes from the others
      cases hrest : rest.mapM (e.one column) with
      | error f' =>
        rw [hv, hrest] at h
        cases h
        exact ih hrest
      | ok xs =>
        rw [hv, hrest] at h
        cases h

/-! ### Rows -/

theorem head?_eq (rows : List Row) :
    head? column rows = (Row.column column rows).head?.bind fun v =>
      v.filter fun v => !v.isNull := by
  cases rows <;> rfl

theorem values_eq (rows : List Row) :
    values column rows = (Row.column column rows).filterMap fun v =>
      v.filter fun v => !v.isNull := by
  rw [Row.column, List.filterMap_map]
  rfl

variable {rows rows' : List Row}

theorem first_congr (h : Row.column column rows = Row.column column rows') :
    e.first column rows = e.first column rows' := by
  unfold first
  rw [head?_eq, head?_eq, h]

theorem every_congr (h : Row.column column rows = Row.column column rows') :
    e.every column rows = e.every column rows' := by
  unfold every
  rw [values_eq, values_eq, h]

theorem total_congr (h : Row.column column rows = Row.column column rows') :
    total column rows = total column rows' := by
  unfold total
  rw [first_congr h]

theorem first_eq_error {f : Failure} (h : e.first column rows = .error f) :
    ∃ found, f = .wrongKind column e.kind found := by
  unfold first at h
  split at h
  · cases h
  · next v _ =>
    cases hv : e.one column v with
    | error f' =>
      rw [hv] at h
      cases h
      exact ⟨v.kind, one_eq_error hv⟩
    | ok x =>
      rw [hv] at h
      cases h

theorem every_eq_error {f : Failure} (h : e.every column rows = .error f) :
    ∃ found, f = .wrongKind column e.kind found :=
  each_eq_error h

/-- **One thing from each row**, in order, when all rows hold a value of the kind that is
expected. -/
theorem every_eq_ok {xs : List α} {value : α → Value} (htake : ∀ x, e.take? (value x) = some x)
    (hnull : ∀ x, (value x).isNull = false)
    (h : Row.column column rows = xs.map fun x => some (value x)) :
    e.every column rows = .ok xs := by
  have hvalues : values column rows = xs.map value := by
    rw [values_eq, h, List.filterMap_map, ← List.filterMap_eq_map]
    congr 1
    funext x
    simp [hnull x]
  rw [every, hvalues, each_eq_ok_iff, List.map_map]
  exact List.map_congr_left fun x _ => htake x

end Reader

end PropertyGraph
