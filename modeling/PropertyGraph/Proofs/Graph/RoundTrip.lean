import PropertyGraph.Proofs.Graph.SortedMaps
import PropertyGraph.Proofs.Json.Reordering

/-!
# Values as texts

A value without doubles and entities is read back from its text.  The other way round, a JSON value
whose numbers are integers with sign comes back from the text of its value as it was, except that
the members of its objects are in the order of their names as bytes.

## Main definitions

* `Value.Plain` — a value without doubles, nodes and relationships, whose maps are in order.
* `Value.depth` — how deep the lists and maps of a value are nested.

## Main results

* `Value.Plain.ofJson_toJson` — a value is what its JSON form is taken for.
* `Json.Exact.plain_ofJson`, `Json.Exact.reordered_ofJson` — what a JSON value is taken for.
* `Value.texts_and_values` — **values and JSON values come back from their texts**.
-/

namespace PropertyGraph

namespace Value

/-! ### Values as JSON -/

theorem itemsToJson_eq_map (items : List Value) : itemsToJson items = items.map toJson := by
  induction items with
  | nil => rfl
  | cons v rest ih => rw [itemsToJson, ih, List.map_cons]

theorem membersToJson_eq_map (members : List (String × Value)) :
    membersToJson members = members.map fun m => (m.1, toJson m.2) := by
  induction members with
  | nil => rfl
  | cons m rest ih => rw [membersToJson, ih, List.map_cons]

theorem ofItems_eq_map (items : List Json) : ofItems items = items.map ofJson := by
  induction items with
  | nil => rfl
  | cons v rest ih => rw [ofItems, ih, List.map_cons]

theorem ofMembers_eq_map (members : List (String × Json)) :
    ofMembers members = members.map fun m => (m.1, ofJson m.2) := by
  induction members with
  | nil => rfl
  | cons m rest ih => rw [ofMembers, ih, List.map_cons]

theorem keys_membersToJson (members : List (String × Value)) :
    Entries.keys (membersToJson members) = Entries.keys members := by
  rw [membersToJson_eq_map, Entries.keys, List.map_map]
  rfl

theorem keys_ofMembers (members : List (String × Json)) :
    Entries.keys (ofMembers members) = Entries.keys members := by
  rw [ofMembers_eq_map, Entries.keys, List.map_map]
  rfl

mutual

/-- How deep lists and maps are nested in a value: none for a scalar, one for an empty list.  Nodes
and relationships are as deep as what describes them. -/
def depth : Value → Nat
  | .list items => itemsDepth items + 1
  | .map members => membersDepth members + 1
  | .node n => n.described.depth
  | .relation r => r.described.depth
  | _ => 0

/-- The greatest depth of an item. -/
def itemsDepth : List Value → Nat
  | [] => 0
  | v :: rest => max (depth v) (itemsDepth rest)

/-- The greatest depth of the value of a member. -/
def membersDepth : List (String × Value) → Nat
  | [] => 0
  | (_, v) :: rest => max (depth v) (membersDepth rest)

end

mutual

/-- A value as JSON is as deep as the value. -/
theorem depth_toJson : ∀ v : Value, v.toJson.depth = v.depth
  | .null => rfl
  | .bool _ => rfl
  | .int _ => rfl
  | .float _ => rfl
  | .string _ => rfl
  | .list items => congrArg (· + 1) (itemsDepth_toJson items)
  | .map members => congrArg (· + 1) (membersDepth_toJson members)
  | .node _ => rfl
  | .relation _ => rfl

theorem itemsDepth_toJson : ∀ items : List Value,
    Json.itemsDepth (itemsToJson items) = itemsDepth items
  | [] => rfl
  | v :: rest => by
    rw [itemsToJson, Json.itemsDepth, itemsDepth, depth_toJson v, itemsDepth_toJson rest]

theorem membersDepth_toJson : ∀ members : List (String × Value),
    Json.membersDepth (membersToJson members) = membersDepth members
  | [] => rfl
  | (_, v) :: rest => by
    rw [membersToJson, Json.membersDepth, membersDepth, depth_toJson v, membersDepth_toJson rest]

end

/-! ### Plain values -/

/-- A value without doubles, nodes and relationships.  Its maps are in order, as every map that is
built from entries is. -/
inductive Plain : Value → Prop where
  | null : Plain .null
  | bool (b : Bool) : Plain (.bool b)
  | int (n : Int64) : Plain (.int n)
  | string (s : String) : Plain (.string s)
  | list {items : List Value} (h : ∀ v ∈ items, Plain v) : Plain (.list items)
  | map {members : List (String × Value)} (hrising : Rising members)
    (h : ∀ m ∈ members, Plain m.2) : Plain (.map members)

variable {v : Value}

theorem ofNumber_toInt (n : Int64) : ofNumber (.int n.toInt) = .int n := by
  have hint : (Json.number (.int n.toInt)).toInt64? = some n := Json.toInt64?_eq_some_iff.mpr rfl
  rw [ofNumber, hint]

/-- **A value is what its JSON form is taken for.** -/
theorem Plain.ofJson_toJson (h : v.Plain) : ofJson v.toJson = v := by
  induction h with
  | null => rfl
  | bool b => rfl
  | int n => exact ofNumber_toInt n
  | string s => rfl
  | @list items _ ih =>
    have hitems : ofItems (itemsToJson items) = items := by
      rw [itemsToJson_eq_map, ofItems_eq_map, List.map_map]
      exact (List.map_congr_left ih).trans (List.map_id items)
    rw [toJson, ofJson, hitems]
  | @map members hrising _ ih =>
    have hmembers : ofMembers (membersToJson members) = members := by
      rw [membersToJson_eq_map, ofMembers_eq_map, List.map_map]
      refine (List.map_congr_left fun m hm => ?_).trans (List.map_id members)
      exact Prod.ext rfl (ih m hm)
    rw [toJson, ofJson, hmembers, ofEntries, hrising.sortedEntries_eq]

theorem Plain.fits64 (h : v.Plain) : v.toJson.fits64 = true := by
  induction h with
  | null => rfl
  | bool b => rfl
  | int n => exact Json.fits64_int (Int64.le_toInt n) (Int64.toInt_lt n)
  | string s => rfl
  | @list items _ ih =>
    refine Json.itemsAllNumbers_iff.mpr ?_
    rw [itemsToJson_eq_map, List.forall_mem_map]
    exact ih
  | @map members _ _ ih =>
    refine Json.membersAllNumbers_iff.mpr ?_
    rw [membersToJson_eq_map, List.forall_mem_map]
    exact ih

theorem Plain.namesDistinct (h : v.Plain) : v.toJson.namesDistinct = true := by
  induction h with
  | null => rfl
  | bool b => rfl
  | int n => rfl
  | string s => rfl
  | @list items _ ih =>
    refine Json.itemsNamesDistinct_iff.mpr ?_
    rw [itemsToJson_eq_map, List.forall_mem_map]
    exact ih
  | @map members hrising _ ih =>
    refine Json.namesDistinct_object.mpr ⟨?_, Json.membersNamesDistinct_iff.mpr ?_⟩
    · rw [keys_membersToJson]
      exact hrising.nodup
    · rw [membersToJson_eq_map, List.forall_mem_map]
      exact ih

/-- A map in order of its names is in order of their bytes. -/
theorem Plain.inByteOrder (h : v.Plain) : v.toJson.InByteOrder := by
  induction h with
  | null => exact .null
  | bool b => exact .bool b
  | int n => exact .number _
  | string s => exact .string s
  | @list items _ ih =>
    refine .array ?_
    rw [itemsToJson_eq_map, List.forall_mem_map]
    exact ih
  | @map members hrising _ ih =>
    refine .object ?_ ?_
    · rw [keys_membersToJson]
      exact hrising.imp Text.utf8_lt_utf8_iff.mpr
    · rw [membersToJson_eq_map, List.forall_mem_map]
      exact ih

/-- A plain value as JSON is what its text says. -/
theorem Plain.ofText?_text (h : v.Plain) (hdepth : v.depth < 128) :
    Json.ofText? v.toJson.text = some v.toJson := by
  refine Json.ofText?_text h.namesDistinct h.fits64 ?_
  rwa [depth_toJson]

/-! ### JSON values taken as values -/

/-- The members of an object, each taken as a value and back, are those of the map that the object
is taken for. -/
theorem membersToJson_sortedEntries_perm {members : List (String × Json)}
    (h : (Entries.keys members).Nodup) :
    (members.map fun m => (m.1, (ofJson m.2).toJson)).Perm
      (membersToJson (sortedEntries (ofMembers members))) := by
  rw [← keys_ofMembers] at h
  have hperm := (sortedEntries_perm h).symm.map fun m => (m.1, toJson m.2)
  rwa [ofMembers_eq_map, List.map_map, ← ofMembers_eq_map, ← membersToJson_eq_map] at hperm

end Value

namespace Json

open Value

variable {j : Json}

theorem Exact.plain_ofJson (h : j.Exact) : (ofJson j).Plain := by
  induction j using induct with
  | null => exact .null
  | bool b => exact .bool b
  | number n =>
    obtain ⟨k, rfl⟩ := Number.exists_toInt_of_isInt64 h.numbers
    rw [ofJson, ofNumber_toInt]
    exact .int k
  | string s => exact .string s
  | array items ih =>
    refine .list ?_
    rw [ofItems_eq_map, List.forall_mem_map]
    exact fun v hv => ih v hv (h.items v hv)
  | object members ih =>
    have hdistinct := h.nodup
    rw [← keys_ofMembers] at hdistinct
    refine .map (rising_sortedEntries _) fun m hm => ?_
    have hmem := (sortedEntries_perm hdistinct).mem_iff.mp hm
    rw [ofMembers_eq_map, List.mem_map] at hmem
    obtain ⟨m', hm', rfl⟩ := hmem
    exact ih m' hm' (h.members m' hm')

/-- **A JSON value taken as a value and back is the same** up to the order of members. -/
theorem Exact.reordered_ofJson (h : j.Exact) : j.Reordered (ofJson j).toJson := by
  induction j using induct with
  | null => exact .null
  | bool b => exact .bool b
  | number n =>
    obtain ⟨k, rfl⟩ := Number.exists_toInt_of_isInt64 h.numbers
    rw [ofJson, ofNumber_toInt]
    exact .number _
  | string s => exact .string s
  | array items ih =>
    rw [ofJson, toJson, ofItems_eq_map, itemsToJson_eq_map, List.map_map]
    exact .array (.map fun v hv => ih v hv (h.items v hv))
  | object members ih =>
    have hmembers := ReorderedMembers.map (f := fun v => (ofJson v).toJson) fun m hm =>
      ih m hm (h.members m hm)
    exact .object hmembers (membersToJson_sortedEntries_perm h.nodup)

/-- A JSON value taken as a value is nested no deeper. -/
theorem Exact.depth_ofJson_le (h : j.Exact) : (ofJson j).toJson.depth ≤ j.depth := by
  induction j using induct with
  | null => exact Nat.le_refl 0
  | bool b => exact Nat.le_refl 0
  | number n =>
    obtain ⟨k, rfl⟩ := Number.exists_toInt_of_isInt64 h.numbers
    rw [ofJson, ofNumber_toInt]
    exact Nat.le_refl 0
  | string s => exact Nat.le_refl 0
  | array items ih =>
    have hitems := itemsDepth_le_iff.mp (Nat.le_refl (itemsDepth items))
    rw [ofJson, toJson, depth, depth]
    refine Nat.succ_le_succ (itemsDepth_le_iff.mpr ?_)
    rw [ofItems_eq_map, itemsToJson_eq_map, List.map_map, List.forall_mem_map]
    exact fun v hv => Nat.le_trans (ih v hv (h.items v hv)) (hitems v hv)
  | object members ih =>
    have hmembers := membersDepth_le_iff.mp (Nat.le_refl (membersDepth members))
    rw [ofJson, ofEntries, toJson, depth, depth]
    refine Nat.succ_le_succ (membersDepth_le_iff.mpr fun m hm => ?_)
    have hmem := (membersToJson_sortedEntries_perm h.nodup).mem_iff.mpr hm
    obtain ⟨m', hm', rfl⟩ := List.mem_map.mp hmem
    exact Nat.le_trans (ih m' hm' (h.members m' hm')) (hmembers m' hm')

end Json

namespace Value

/-- **Values and JSON values come back from their texts.**  A value without doubles and entities is
the value that its text is taken for.  A JSON value without repeated names, whose numbers are
integers with sign, comes back from the text of the value that it is taken for; only the members of
objects may change their places, and in the text they are in the order of their names as bytes. -/
theorem texts_and_values :
    (∀ v : Value, v.Plain → v.depth < 128 →
      (Json.ofText? v.toJson.text).map ofJson = some v) ∧
    ∀ j : Json, j.Exact → j.depth < 128 →
      ∃ k, Json.read? (ofJson j).toJson.text = some k ∧
        Json.ofText? (ofJson j).toJson.text = some k ∧ j.Reordered k ∧ k.InByteOrder := by
  refine ⟨fun v hplain hdepth => ?_, fun j hexact hdepth => ?_⟩
  · rw [hplain.ofText?_text hdepth, Option.map_some, hplain.ofJson_toJson]
  · have hplain := hexact.plain_ofJson
    have hroom : (ofJson j).toJson.depth < 128 := Nat.lt_of_le_of_lt hexact.depth_ofJson_le hdepth
    refine ⟨(ofJson j).toJson, Json.read?_text hplain.fits64 hroom, ?_, hexact.reordered_ofJson,
      hplain.inByteOrder⟩
    exact Json.ofText?_text hplain.namesDistinct hplain.fits64 hroom

/-- A map with names below and above the surrogates, which units of two bytes would put the other
way round. -/
def twoPlanes : Value :=
  .map [
    ("\uFFFD", .int (-0x8000000000000000)),
    ("𝒜", .list [.null, .string "say \"\n\"", .map []])]

/-- An object whose names are out of order at both depths. -/
def disordered : Json :=
  .object [
    ("𝒜", .object [("b", .number (.int 0x7FFFFFFFFFFFFFFF)), ("a", .array [.bool true])]),
    ("\uFFFD", .number (.int (-0x8000000000000000)))]

/-- A value with the least integer and a JSON value with the greatest one, with names that need
sorting. -/
theorem texts_and_values_twoPlanes :
    (twoPlanes.Plain ∧ twoPlanes.depth < 128 ∧
      (Json.ofText? twoPlanes.toJson.text).map ofJson = some twoPlanes) ∧
    disordered.Exact ∧ disordered.depth < 128 ∧
      ∃ k, Json.read? (ofJson disordered).toJson.text = some k ∧
        Json.ofText? (ofJson disordered).toJson.text = some k ∧ disordered.Reordered k ∧
        k.InByteOrder := by
  obtain ⟨hvalue, hjson⟩ := texts_and_values
  have hempty : (Value.map []).Plain := .map .nil (List.forall_mem_nil _)
  have hlist : (Value.list [.null, .string "say \"\n\"", .map []]).Plain := by
    refine .list ?_
    simp only [List.forall_mem_cons]
    exact ⟨.null, .string _, hempty, List.forall_mem_nil _⟩
  have hplain : twoPlanes.Plain := by
    refine .map (by unfold Rising; decide) ?_
    simp only [List.forall_mem_cons]
    exact ⟨.int _, hlist, List.forall_mem_nil _⟩
  have hexact : disordered.Exact := ⟨by decide, by decide⟩
  have hdepth : twoPlanes.depth < 128 := by decide
  have hroom : disordered.depth < 128 := by decide
  exact ⟨⟨hplain, hdepth, hvalue _ hplain hdepth⟩, hexact, hroom, hjson _ hexact hroom⟩

end Value

end PropertyGraph
