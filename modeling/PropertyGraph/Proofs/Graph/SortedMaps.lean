import Mathlib.Data.List.Induction
import PropertyGraph.Graph.Value

/-!
# Maps in order

A map is built by writing its entries one after another, each at the place of its name.  The names
are in strictly rising order afterwards.  Where no name repeats, no entry is lost, so a map is a
reordering of its entries, and entries that are in order already are a map as they are.

## Main definitions

* `Value.Rising` — the names of entries are in strictly rising order.

## Main results

* `Value.Rising.insertSorted` — writing one entry keeps the order.
* `Value.rising_sortedEntries` — **a map is in order**, whatever its entries are.
* `Value.sortedEntries_perm` — **a map has the entries that it is made from**.
* `Value.Rising.sortedEntries_eq` — entries in order are a map.
-/

namespace PropertyGraph.Value

open Entries
open scoped List

variable {α : Type} {name : String} {value : α} {entries : List (String × α)}

/-- The names of entries are in strictly rising order. -/
def Rising (entries : List (String × α)) : Prop :=
  (keys entries).Pairwise (· < ·)

theorem rising_cons {k : String} {v : α} {rest : List (String × α)} :
    Rising ((k, v) :: rest) ↔ (∀ l ∈ keys rest, k < l) ∧ Rising rest := by
  unfold Rising
  rw [keys_cons, List.pairwise_cons]

theorem Rising.nodup (h : Rising entries) : (keys entries).Nodup := by
  refine List.Pairwise.imp ?_ h
  rintro a b hlt rfl
  exact String.lt_irrefl a hlt

/-! ### Writing one entry -/

theorem mem_keys_insertSorted {k : String} :
    k ∈ keys (insertSorted name value entries) ↔ k = name ∨ k ∈ keys entries := by
  induction entries with
  | nil => simp [insertSorted, keys]
  | cons e rest ih =>
    obtain ⟨l, v⟩ := e
    rw [insertSorted]
    split
    · rw [keys_cons, List.mem_cons]
    · split
      · next heq =>
        subst heq
        rw [keys_cons, keys_cons, List.mem_cons, ← or_assoc, or_self]
      · rw [keys_cons, keys_cons, List.mem_cons, List.mem_cons, ih, or_left_comm]

/-- **Writing one entry keeps the order.** -/
theorem Rising.insertSorted (h : Rising entries) : Rising (insertSorted name value entries) := by
  induction entries with
  | nil => exact List.pairwise_singleton _ _
  | cons e rest ih =>
    obtain ⟨k, v⟩ := e
    obtain ⟨hk, hrest⟩ := rising_cons.mp h
    rw [Value.insertSorted]
    split
    · next hlt =>
      refine rising_cons.mpr ⟨fun l hl => ?_, h⟩
      rcases List.mem_cons.mp hl with rfl | hl
      · exact hlt
      · exact String.lt_trans hlt (hk l hl)
    · next hnot =>
      split
      · exact rising_cons.mpr ⟨hk, hrest⟩
      · next hne =>
        -- the name is neither smaller nor equal, so it is larger
        have hlt : k < name := Std.lt_of_le_of_ne (String.not_lt.mp hnot) (Ne.symm hne)
        refine rising_cons.mpr ⟨fun l hl => ?_, ih hrest⟩
        rcases mem_keys_insertSorted.mp hl with rfl | hl
        · exact hlt
        · exact hk l hl

/-- A new name adds its entry. -/
theorem insertSorted_perm (h : name ∉ keys entries) :
    (insertSorted name value entries).Perm ((name, value) :: entries) := by
  induction entries with
  | nil => exact .refl _
  | cons e rest ih =>
    obtain ⟨k, v⟩ := e
    rw [keys_cons, List.mem_cons, not_or] at h
    rw [insertSorted]
    split
    · exact .refl _
    · rw [if_neg h.1]
      exact ((ih h.2).cons (k, v)).trans (.swap (name, value) (k, v) rest)

/-! ### Writing all entries -/

theorem sortedEntries_concat (entries : List (String × α)) (name : String) (value : α) :
    sortedEntries (entries ++ [(name, value)])
      = insertSorted name value (sortedEntries entries) := by
  unfold sortedEntries
  rw [List.foldl_append]
  rfl

/-- **A map is in order**, whatever its entries are. -/
theorem rising_sortedEntries (entries : List (String × α)) : Rising (sortedEntries entries) := by
  induction entries using List.reverseRecOn with
  | nil => exact .nil
  | append_singleton entries e ih =>
    obtain ⟨name, value⟩ := e
    rw [sortedEntries_concat]
    exact ih.insertSorted

/-- **A map has the entries that it is made from**, where no name repeats. -/
theorem sortedEntries_perm (h : (keys entries).Nodup) : (sortedEntries entries).Perm entries := by
  induction entries using List.reverseRecOn with
  | nil => exact .nil
  | append_singleton entries e ih =>
    obtain ⟨name, value⟩ := e
    rw [keys, List.map_append, List.nodup_append] at h
    obtain ⟨hentries, -, hdisjoint⟩ := h
    have hperm := ih hentries
    have hnew : name ∉ keys (sortedEntries entries) := by
      intro hname
      exact hdisjoint name ((hperm.map Prod.fst).mem_iff.mp hname) name (by simp) rfl
    rw [sortedEntries_concat]
    calc insertSorted name value (sortedEntries entries)
      _ ~ (name, value) :: sortedEntries entries := insertSorted_perm hnew
      _ ~ (name, value) :: entries := hperm.cons _
      _ ~ entries ++ [(name, value)] := (List.perm_append_singleton _ _).symm

/-- Entries in order are a map as they are: there is only one order for them. -/
theorem Rising.sortedEntries_eq (h : Rising entries) : sortedEntries entries = entries := by
  have hperm := sortedEntries_perm h.nodup
  have hsorted := rising_sortedEntries entries
  unfold Rising keys at h hsorted
  rw [List.pairwise_map] at h hsorted
  refine hperm.eq_of_pairwise (fun a b _ _ hab hba => ?_) hsorted h
  exact absurd hba (String.lt_asymm hab)

end PropertyGraph.Value
