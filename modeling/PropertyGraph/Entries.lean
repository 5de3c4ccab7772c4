/-!
# Entries

Named values in order.  Writing to a name that is there keeps its place and takes the new value;
writing to a new name adds it at the end.  Names may repeat in a list that was not built by writing:
then the first entry of a name is the one that is read and removed.

## Main definitions

* `Entries` — a list of names with their values.
* `Entries.put`, `Entries.get?`, `Entries.remove` — writing, reading and removing a name.
* `Entries.ofList` — the entries written one after another, so that each name occurs once.
-/

namespace PropertyGraph

/-- Names with their values, in order. -/
abbrev Entries (α : Type) := List (String × α)

namespace Entries

variable {α : Type}

/-- The names, in order. -/
def keys (entries : Entries α) : List String :=
  entries.map Prod.fst

/-- Writes a value to a name: in its place when the name is there, at the end when it is new. -/
def put (name : String) (value : α) : Entries α → Entries α
  | [] => [(name, value)]
  | (k, v) :: rest => if k = name then (k, value) :: rest else (k, v) :: put name value rest

/-- The value of the first entry with a name. -/
def get? (name : String) : Entries α → Option α
  | [] => none
  | (k, v) :: rest => if k = name then some v else get? name rest

/-- The entries without the first one of a name. -/
def remove (name : String) : Entries α → Entries α
  | [] => []
  | (k, v) :: rest => if k = name then rest else (k, v) :: remove name rest

/-- The entries of a list written one after another: each name keeps its first place and takes its
last value. -/
def ofList (entries : List (String × α)) : Entries α :=
  entries.foldl (fun written (k, v) => put k v written) []

/-! ### Names -/

@[simp] theorem keys_nil : keys ([] : Entries α) = [] := rfl

@[simp] theorem keys_cons (k : String) (v : α) (rest : Entries α) :
    keys ((k, v) :: rest) = k :: keys rest := rfl

theorem keys_put (name : String) (value : α) (entries : Entries α) :
    keys (put name value entries)
      = if name ∈ keys entries then keys entries else keys entries ++ [name] := by
  induction entries with
  | nil => simp [put]
  | cons e rest ih =>
    obtain ⟨k, v⟩ := e
    by_cases h : k = name
    · simp [put, h]
    · by_cases hr : name ∈ keys rest <;> simp [put, h, ih, hr, Ne.symm h]

theorem nodup_keys_put {name : String} {value : α} {entries : Entries α}
    (h : (keys entries).Nodup) : (keys (put name value entries)).Nodup := by
  rw [keys_put]
  split
  · exact h
  · next hn => simp [List.nodup_append, h]; exact fun a ha he => hn (he ▸ ha)

theorem nodup_keys_ofList (entries : List (String × α)) : (keys (ofList entries)).Nodup := by
  suffices ∀ start : Entries α, (keys start).Nodup →
      (keys (entries.foldl (fun written (k, v) => put k v written) start)).Nodup from
    this [] (by simp)
  induction entries with
  | nil => exact fun _ h => h
  | cons e rest ih => exact fun start h => ih _ (nodup_keys_put h)

/-! ### Reading -/

@[simp] theorem get?_put_self (name : String) (value : α) (entries : Entries α) :
    get? name (put name value entries) = some value := by
  induction entries with
  | nil => simp [put, get?]
  | cons e rest ih =>
    obtain ⟨k, v⟩ := e
    by_cases h : k = name <;> simp [put, get?, h, ih]

theorem get?_put_of_ne {name other : String} (value : α) (entries : Entries α)
    (h : other ≠ name) : get? other (put name value entries) = get? other entries := by
  induction entries with
  | nil => simp [put, get?, Ne.symm h]
  | cons e rest ih =>
    obtain ⟨k, v⟩ := e
    by_cases hk : k = name
    · subst hk; simp [put, get?, Ne.symm h]
    · by_cases ho : k = other
      · subst ho; simp [put, get?, hk]
      · simp [put, get?, hk, ho, ih]

end Entries

end PropertyGraph
