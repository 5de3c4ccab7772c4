import Mathlib.Data.List.Induction
import PropertyGraph.Graph.Properties

/-!
# Entries that are written one after another

Writing many entries leaves each name at the place where it was written first, with the value that
was written last.

## Main definitions

* `Properties.inserted` — the properties that are inserted one after another.

## Main results

* `Entries.keys_ofList` — the order of the names.
* `Entries.get?_ofList` — the values.
-/

namespace PropertyGraph

namespace Entries

variable {α : Type}

theorem ofList_concat (entries : List (String × α)) (name : String) (value : α) :
    ofList (entries ++ [(name, value)]) = put name value (ofList entries) := by
  unfold ofList
  rw [List.foldl_append]
  rfl

/-- Without repetitions, a last name counts when it is new. -/
theorem eraseDups_concat (names : List String) (name : String) :
    (names ++ [name]).eraseDups
      = if name ∈ names then names.eraseDups else names.eraseDups ++ [name] := by
  rw [List.eraseDups_append]
  by_cases h : name ∈ names
  · simp [List.removeAll, h]
  · simp [List.removeAll, h, List.eraseDups_cons]

/-- **Each name stands where it was written first.** -/
theorem keys_ofList (entries : List (String × α)) :
    keys (ofList entries) = (keys entries).eraseDups := by
  induction entries using List.reverseRecOn with
  | nil => rfl
  | append_singleton entries e ih =>
    obtain ⟨name, value⟩ := e
    have hkeys : keys (entries ++ [(name, value)]) = keys entries ++ [name] := by
      simp [keys]
    rw [ofList_concat, keys_put, ih, hkeys, eraseDups_concat]
    simp only [List.mem_eraseDups]

/-- **Each name has the value that was written last.** -/
theorem get?_ofList (name : String) (entries : List (String × α)) :
    get? name (ofList entries) = get? name entries.reverse := by
  induction entries using List.reverseRecOn with
  | nil => rfl
  | append_singleton entries e ih =>
    obtain ⟨k, value⟩ := e
    rw [ofList_concat, List.reverse_append, List.reverse_singleton, List.singleton_append, get?]
    by_cases h : k = name
    · subst h
      rw [get?_put_self, if_pos rfl]
    · rw [get?_put_of_ne value _ (Ne.symm h), if_neg h, ih]

end Entries

namespace Properties

/-- The properties that are inserted one after another. -/
def inserted (pairs : List (String × Json)) : Properties :=
  pairs.foldl (fun m e => m.insert e.1 e.2) empty

theorem entries_inserted (pairs : List (String × Json)) :
    (inserted pairs).entries = Entries.ofList pairs := by
  induction pairs using List.reverseRecOn with
  | nil => rfl
  | append_singleton pairs e ih =>
    obtain ⟨name, value⟩ := e
    have hlast : inserted (pairs ++ [(name, value)]) = (inserted pairs).insert name value := by
      unfold inserted
      rw [List.foldl_append]
      rfl
    rw [hlast, entries_insert, ih, Entries.ofList_concat]

end Properties

end PropertyGraph
