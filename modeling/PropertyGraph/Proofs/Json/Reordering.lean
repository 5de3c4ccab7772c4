import PropertyGraph.Proofs.Json.Induction
import PropertyGraph.Proofs.Text.Utf8

/-!
# JSON values and the order of members

Objects are read by name, so two values that differ only in the order of members are the same to
everybody who reads them.  One order is distinguished: that of the names as bytes.

## Main definitions

* `Json.Exact` — a value that repeats no name and has no numbers but integers with sign.
* `Json.Reordered` — the same value up to the order of members, at every depth.
* `Json.InByteOrder` — a value whose members are in the order of their names as bytes.

## Main results

* `Number.exists_toInt_of_isInt64` — the numbers of an exact value are integers of 64 bits.
* `Json.ReorderedItems.map`, `Json.ReorderedMembers.map` — what reorders each part reorders all.
-/

namespace PropertyGraph

/-! ### Exact values -/

/-- Whether a number is an integer of 64 bits with sign. -/
def Number.isInt64 : Number → Bool
  | .int n => -0x8000000000000000 ≤ n && n < 0x8000000000000000
  | .double _ => false

theorem Number.exists_toInt_of_isInt64 {n : Number} (h : n.isInt64 = true) :
    ∃ k : Int64, n = .int k.toInt := by
  cases n with
  | double d => cases h
  | int n =>
    rw [isInt64, Bool.and_eq_true, decide_eq_true_iff, decide_eq_true_iff] at h
    have hk : (Int64.ofInt n).toInt = n := Int64.toInt_ofInt_of_le (by omega) (by omega)
    exact ⟨.ofInt n, by rw [hk]⟩

namespace Json

/-- No name repeats in an object of a value, and the numbers are integers of 64 bits with sign. -/
structure Exact (v : Json) : Prop where
  /-- No name repeats. -/
  names : v.namesDistinct = true
  /-- The numbers are integers with sign. -/
  numbers : v.allNumbers Number.isInt64 = true

theorem Exact.items {items : List Json} (h : (Json.array items).Exact) : ∀ v ∈ items, v.Exact :=
  fun v hv => ⟨itemsNamesDistinct_iff.mp h.names v hv, itemsAllNumbers_iff.mp h.numbers v hv⟩

theorem Exact.nodup {members : List (String × Json)} (h : (Json.object members).Exact) :
    (Entries.keys members).Nodup :=
  (namesDistinct_object.mp h.names).1

theorem Exact.members {ms : List (String × Json)} (h : (Json.object ms).Exact) :
    ∀ m ∈ ms, m.2.Exact := by
  intro m hm
  obtain ⟨-, hnames⟩ := namesDistinct_object.mp h.names
  exact ⟨membersNamesDistinct_iff.mp hnames m hm, membersAllNumbers_iff.mp h.numbers m hm⟩

/-! ### The order of members -/

mutual

/-- The same value up to the order of members, at every depth. -/
inductive Reordered : Json → Json → Prop where
  | null : Reordered .null .null
  | bool (b : Bool) : Reordered (.bool b) (.bool b)
  | number (n : Number) : Reordered (.number n) (.number n)
  | string (s : String) : Reordered (.string s) (.string s)
  | array {vs ws : List Json} (h : ReorderedItems vs ws) : Reordered (.array vs) (.array ws)
  | object {ms ns os : List (String × Json)} (h : ReorderedMembers ms ns) (hperm : ns.Perm os) :
    Reordered (.object ms) (.object os)

/-- Items in their places, each the same up to the order of members. -/
inductive ReorderedItems : List Json → List Json → Prop where
  | nil : ReorderedItems [] []
  | cons {v w : Json} {vs ws : List Json} (h : Reordered v w) (hrest : ReorderedItems vs ws) :
    ReorderedItems (v :: vs) (w :: ws)

/-- Members in their places, each of the same name and with the same value up to the order of
members. -/
inductive ReorderedMembers : List (String × Json) → List (String × Json) → Prop where
  | nil : ReorderedMembers [] []
  | cons {k : String} {v w : Json} {ms ns : List (String × Json)} (h : Reordered v w)
    (hrest : ReorderedMembers ms ns) : ReorderedMembers ((k, v) :: ms) ((k, w) :: ns)

end

theorem ReorderedItems.map {f : Json → Json} {vs : List Json} (h : ∀ v ∈ vs, Reordered v (f v)) :
    ReorderedItems vs (vs.map f) := by
  induction vs with
  | nil => exact .nil
  | cons v rest ih =>
    rw [List.forall_mem_cons] at h
    exact .cons h.1 (ih h.2)

theorem ReorderedMembers.map {f : Json → Json} {ms : List (String × Json)}
    (h : ∀ m ∈ ms, Reordered m.2 (f m.2)) : ReorderedMembers ms (ms.map fun m => (m.1, f m.2)) := by
  induction ms with
  | nil => exact .nil
  | cons m rest ih =>
    rw [List.forall_mem_cons] at h
    exact .cons h.1 (ih h.2)

/-- A value whose members are in strictly rising order of their names as bytes, at every depth. -/
inductive InByteOrder : Json → Prop where
  | null : InByteOrder .null
  | bool (b : Bool) : InByteOrder (.bool b)
  | number (n : Number) : InByteOrder (.number n)
  | string (s : String) : InByteOrder (.string s)
  | array {items : List Json} (h : ∀ v ∈ items, InByteOrder v) : InByteOrder (.array items)
  | object {members : List (String × Json)}
    (hnames : (Entries.keys members).Pairwise fun a b => Text.utf8 a < Text.utf8 b)
    (h : ∀ m ∈ members, InByteOrder m.2) : InByteOrder (.object members)

end Json

end PropertyGraph
