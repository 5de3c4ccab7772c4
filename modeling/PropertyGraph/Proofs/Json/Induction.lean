import PropertyGraph.Proofs.Json.Names
import PropertyGraph.Proofs.Json.ReadBack

/-!
# Values and what is in them

A value is built from the items of its arrays and the values of its members, and what is said of
all numbers, all names or the nesting of a value is said of each of these.

## Main definitions

* `Json.ofText?` — the value of a text, with each member once.

## Main results

* `Json.induct` — **induction over values**: an array from its items, an object from its members.
* `Json.itemsAllNumbers_iff`, `Json.itemsNamesDistinct_iff`, `Json.itemsDepth_le_iff` and the same
  for members — what is said of a list of values is said of each.
-/

namespace PropertyGraph.Json

/-- **Induction over values**: an array from its items, an object from the values of its members. -/
@[elab_as_elim]
theorem induct {motive : Json → Prop} (null : motive .null) (bool : ∀ b, motive (.bool b))
    (number : ∀ n, motive (.number n)) (string : ∀ s, motive (.string s))
    (array : ∀ items, (∀ v ∈ items, motive v) → motive (.array items))
    (object : ∀ members, (∀ m ∈ members, motive m.2) → motive (.object members)) (v : Json) :
    motive v := by
  -- the recursor goes through lists and pairs, of which all parts are to have the property
  refine @Json.rec motive (fun items => ∀ v ∈ items, motive v)
    (fun members => ∀ m ∈ members, motive m.2) (fun m => motive m.2)
    null bool number string array object ?_ ?_ ?_ ?_ ?_ v
  · exact List.forall_mem_nil _
  · exact fun _ _ hv hrest => List.forall_mem_cons.mpr ⟨hv, hrest⟩
  · exact List.forall_mem_nil _
  · exact fun _ _ hm hrest => List.forall_mem_cons.mpr ⟨hm, hrest⟩
  · exact fun _ _ hv => hv

/-! ### Conditions on lists of values -/

variable {items : List Json} {members : List (String × Json)} {p : Number → Bool} {n : Nat}

theorem itemsAllNumbers_iff :
    itemsAllNumbers p items = true ↔ ∀ v ∈ items, v.allNumbers p = true := by
  induction items with
  | nil => simp [itemsAllNumbers]
  | cons v rest ih => rw [itemsAllNumbers, Bool.and_eq_true, ih, List.forall_mem_cons]

theorem membersAllNumbers_iff :
    membersAllNumbers p members = true ↔ ∀ m ∈ members, m.2.allNumbers p = true := by
  induction members with
  | nil => simp [membersAllNumbers]
  | cons m rest ih => rw [membersAllNumbers, Bool.and_eq_true, ih, List.forall_mem_cons]

theorem itemsNamesDistinct_iff :
    itemsNamesDistinct items = true ↔ ∀ v ∈ items, v.namesDistinct = true := by
  induction items with
  | nil => simp [itemsNamesDistinct]
  | cons v rest ih => rw [itemsNamesDistinct, Bool.and_eq_true, ih, List.forall_mem_cons]

theorem membersNamesDistinct_iff :
    membersNamesDistinct members = true ↔ ∀ m ∈ members, m.2.namesDistinct = true := by
  induction members with
  | nil => simp [membersNamesDistinct]
  | cons m rest ih => rw [membersNamesDistinct, Bool.and_eq_true, ih, List.forall_mem_cons]

theorem itemsDepth_le_iff : itemsDepth items ≤ n ↔ ∀ v ∈ items, v.depth ≤ n := by
  induction items with
  | nil => simp [itemsDepth]
  | cons v rest ih => rw [itemsDepth, Nat.max_le, ih, List.forall_mem_cons]

theorem membersDepth_le_iff : membersDepth members ≤ n ↔ ∀ m ∈ members, m.2.depth ≤ n := by
  induction members with
  | nil => simp [membersDepth]
  | cons m rest ih => rw [membersDepth, Nat.max_le, ih, List.forall_mem_cons]

/-! ### Texts -/

/-- The value of a text, with each member once. -/
def ofText? (s : String) : Option Json :=
  (read? s).map collapse

/-- A value that repeats no name is the value of its text. -/
theorem ofText?_text {v : Json} (hnames : v.namesDistinct = true) (hfits : v.fits64 = true)
    (hdepth : v.depth < 128) : ofText? v.text = some v := by
  rw [ofText?, read?_text hfits hdepth, Option.map_some, collapse_of_namesDistinct hnames]

end PropertyGraph.Json
