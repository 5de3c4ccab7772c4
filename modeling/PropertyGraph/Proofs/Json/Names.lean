import PropertyGraph.Json.Basic

/-!
# Values with distinct names

A document may repeat a name in an object, but a value in hand does not.  Where the names are
distinct, entries are what has been written to them, reading a name is membership, and there is
nothing to collapse.

## Main definitions

* `Json.namesDistinct` — no object in a value repeats a name.

## Main results

* `Entries.ofList_of_nodup` — entries with distinct names are what they are written as.
* `Entries.get?_eq_some_iff` — reading a name is membership.
* `Json.collapse_of_namesDistinct` — **there is nothing to collapse.**
-/

namespace PropertyGraph

/-! ### Entries -/

namespace Entries

variable {α : Type} {name : String} {value : α} {entries : Entries α}

theorem mem_keys_of_mem (h : (name, value) ∈ entries) : name ∈ keys entries :=
  List.mem_map.mpr ⟨(name, value), h, rfl⟩

theorem put_of_notMem (h : name ∉ keys entries) :
    put name value entries = entries ++ [(name, value)] := by
  induction entries with
  | nil => rfl
  | cons e rest ih =>
    obtain ⟨k, v⟩ := e
    rw [keys_cons, List.mem_cons, not_or] at h
    rw [put, if_neg (Ne.symm h.1), ih h.2, List.cons_append]

theorem ofList_of_nodup (h : (keys entries).Nodup) : ofList entries = entries := by
  -- the entries that are written already stand in front of those to come
  have key : ∀ written : Entries α, (keys (written ++ entries)).Nodup →
      entries.foldl (fun written e => put e.1 e.2 written) written = written ++ entries := by
    clear h
    induction entries with
    | nil => simp
    | cons e rest ih =>
      obtain ⟨k, v⟩ := e
      intro written hnodup
      have hnew : k ∉ keys written := by
        rw [keys, List.map_append, List.nodup_append] at hnodup
        exact fun hk => hnodup.2.2 k hk k (by simp) rfl
      rw [List.foldl_cons, put_of_notMem hnew, ih _ (by simpa using hnodup), List.append_assoc,
        List.singleton_append]
  exact key [] h

theorem mem_of_get? (h : get? name entries = some value) : (name, value) ∈ entries := by
  induction entries with
  | nil => cases h
  | cons e rest ih =>
    obtain ⟨k, v⟩ := e
    rw [get?] at h
    split at h
    · next hk =>
      subst hk
      cases h
      exact List.mem_cons_self ..
    · exact List.mem_cons_of_mem _ (ih h)

theorem get?_eq_none_iff : get? name entries = none ↔ name ∉ keys entries := by
  induction entries with
  | nil => simp [get?]
  | cons e rest ih =>
    obtain ⟨k, v⟩ := e
    rw [get?, keys_cons, List.mem_cons, not_or, ← ih]
    by_cases hk : k = name
    · simp [hk]
    · simp [hk, Ne.symm hk]

/-- **Reading a name is membership**, where names are distinct. -/
theorem get?_eq_some_iff (h : (keys entries).Nodup) :
    get? name entries = some value ↔ (name, value) ∈ entries := by
  refine ⟨mem_of_get?, fun hmem => ?_⟩
  induction entries with
  | nil => cases hmem
  | cons e rest ih =>
    obtain ⟨k, v⟩ := e
    rw [keys_cons, List.nodup_cons] at h
    rcases List.mem_cons.mp hmem with heq | hrest
    · cases heq
      rw [get?, if_pos rfl]
    · have hk : k ≠ name := fun hk => h.1 (hk ▸ mem_keys_of_mem hrest)
      rw [get?, if_neg hk, ih h.2 hrest]

end Entries

/-! ### Values -/

namespace Json

mutual

/-- Whether no object in a value repeats a name. -/
def namesDistinct : Json → Bool
  | .array items => itemsNamesDistinct items
  | .object members => decide (Entries.keys members).Nodup && membersNamesDistinct members
  | _ => true

/-- Whether no object in an item repeats a name. -/
def itemsNamesDistinct : List Json → Bool
  | [] => true
  | v :: rest => namesDistinct v && itemsNamesDistinct rest

/-- Whether no object in the value of a member repeats a name. -/
def membersNamesDistinct : List (String × Json) → Bool
  | [] => true
  | (_, v) :: rest => namesDistinct v && membersNamesDistinct rest

end

theorem namesDistinct_object {members : List (String × Json)} :
    (Json.object members).namesDistinct = true ↔
      (Entries.keys members).Nodup ∧ membersNamesDistinct members = true := by
  rw [namesDistinct, Bool.and_eq_true, decide_eq_true_iff]

theorem namesDistinct_of_mem_items {v : Json} {items : List Json}
    (h : itemsNamesDistinct items = true) (hv : v ∈ items) : v.namesDistinct = true := by
  induction items with
  | nil => cases hv
  | cons w rest ih =>
    rw [itemsNamesDistinct, Bool.and_eq_true] at h
    rcases List.mem_cons.mp hv with rfl | hrest
    · exact h.1
    · exact ih h.2 hrest

theorem namesDistinct_of_mem_members {k : String} {v : Json} {members : List (String × Json)}
    (h : membersNamesDistinct members = true) (hv : (k, v) ∈ members) : v.namesDistinct = true := by
  induction members with
  | nil => cases hv
  | cons m rest ih =>
    rw [membersNamesDistinct, Bool.and_eq_true] at h
    rcases List.mem_cons.mp hv with rfl | hrest
    · exact h.1
    · exact ih h.2 hrest

mutual

/-- **There is nothing to collapse** in a value that repeats no name. -/
theorem collapse_of_namesDistinct : ∀ {v : Json}, v.namesDistinct = true → v.collapse = v
  | .null, _ => rfl
  | .bool _, _ => rfl
  | .number _, _ => rfl
  | .string _, _ => rfl
  | .array items, h => congrArg Json.array (collapseItems_of_namesDistinct h)
  | .object members, h => by
    obtain ⟨hnames, hmembers⟩ := namesDistinct_object.mp h
    rw [collapse, collapseMembers_of_namesDistinct hmembers, Entries.ofList_of_nodup hnames]

theorem collapseItems_of_namesDistinct : ∀ {vs : List Json}, itemsNamesDistinct vs = true →
    collapseItems vs = vs
  | [], _ => rfl
  | v :: vs, h => by
    rw [itemsNamesDistinct, Bool.and_eq_true] at h
    rw [collapseItems, collapse_of_namesDistinct h.1, collapseItems_of_namesDistinct h.2]

theorem collapseMembers_of_namesDistinct : ∀ {ms : List (String × Json)},
    membersNamesDistinct ms = true → collapseMembers ms = ms
  | [], _ => rfl
  | (k, v) :: ms, h => by
    rw [membersNamesDistinct, Bool.and_eq_true] at h
    rw [collapseMembers, collapse_of_namesDistinct h.1, collapseMembers_of_namesDistinct h.2]

end

end Json

end PropertyGraph
