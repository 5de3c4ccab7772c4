import PropertyGraph.Json.Draft

/-!
# Nesting

A text leaves room for so many arrays and objects inside one another, and a value in hand may be
nested as deep as it likes.  The draft of a value is the value again for every origin that has room
for the nesting of the value, so that no reader of full values can tell these origins apart.

## Main definitions

* `Json.depth` — how deep the arrays and objects of a value are nested.
* `Origin.Holds` — an origin has room for a depth.

## Main results

* `Origin.Holds.inside` — opening an array or an object takes one level of room.
* `Draft.strict?_ofJson` — **the draft of a value is the value again**, where there is room for it.
* `Draft.strict?_eq_some_iff` — no other draft is this value.
-/

namespace PropertyGraph

namespace Json

mutual

/-- How deep arrays and objects are nested in a value: none for a scalar, one for an empty array. -/
def depth : Json → Nat
  | .array items => itemsDepth items + 1
  | .object members => membersDepth members + 1
  | _ => 0

/-- The greatest depth of an item. -/
def itemsDepth : List Json → Nat
  | [] => 0
  | v :: rest => max (depth v) (itemsDepth rest)

/-- The greatest depth of the value of a member. -/
def membersDepth : List (String × Json) → Nat
  | [] => 0
  | (_, v) :: rest => max (depth v) (membersDepth rest)

end

end Json

/-! ### Room -/

namespace Origin

/-- Whether arrays and objects may be nested so deep in what comes from an origin. -/
def Holds : Origin → Nat → Prop
  | .tree, _ => True
  | .text room, depth => depth ≤ room

variable {o : Origin} {m n : Nat}

/-- There is always room for a scalar. -/
theorem holds_zero (o : Origin) : o.Holds 0 := by
  cases o with
  | tree => trivial
  | text room => exact Nat.zero_le room

theorem Holds.mono (h : o.Holds n) (hmn : m ≤ n) : o.Holds m := by
  cases o with
  | tree => trivial
  | text room => exact Nat.le_trans hmn h

theorem Holds.left (h : o.Holds (max m n)) : o.Holds m :=
  h.mono (Nat.le_max_left m n)

theorem Holds.right (h : o.Holds (max m n)) : o.Holds n :=
  h.mono (Nat.le_max_right m n)

/-- Inside an array or an object there is room for what is in it. -/
theorem Holds.inside (h : o.Holds (n + 1)) : ∃ inner, o.inside? = some inner ∧ inner.Holds n := by
  cases o with
  | tree => exact ⟨.tree, rfl, trivial⟩
  | text room =>
    cases room with
    | zero => exact absurd h (Nat.not_succ_le_zero n)
    | succ room => exact ⟨.text room, rfl, Nat.le_of_succ_le_succ h⟩

theorem Holds.of_inside {inner : Origin} (hinside : o.inside? = some inner) (h : inner.Holds n) :
    o.Holds (n + 1) := by
  cases o with
  | tree => trivial
  | text room =>
    cases room with
    | zero => cases hinside
    | succ room =>
      cases hinside
      exact Nat.succ_le_succ h

theorem Holds.max (hm : o.Holds m) (hn : o.Holds n) : o.Holds (max m n) := by
  cases o with
  | tree => trivial
  | text room => exact Nat.max_le.mpr ⟨hm, hn⟩

end Origin

/-! ### Drafts of values -/

namespace Draft

open Json

theorem isComplete_ofJson (v : Json) : (ofJson v).isComplete = true := by
  cases v <;> rfl

mutual

/-- **The draft of a value is the value again**, where there is room for it. -/
theorem strict?_ofJson : ∀ {o : Origin} {v : Json}, o.Holds v.depth → strict? o (ofJson v) = some v
  | _, .null, _ => rfl
  | _, .bool _, _ => rfl
  | _, .number _, _ => rfl
  | _, .string _, _ => rfl
  | o, .array items, h => by
    obtain ⟨inner, hinside, hinner⟩ := Origin.Holds.inside h
    simp only [ofJson, strict?]
    rw [hinside]
    simp only [if_true]
    rw [strictItems?_ofItems hinner]
    rfl
  | o, .object members, h => by
    obtain ⟨inner, hinside, hinner⟩ := Origin.Holds.inside h
    simp only [ofJson, strict?]
    rw [hinside]
    simp only [if_true]
    rw [strictMembers?_ofMembers hinner]
    rfl

theorem strictItems?_ofItems : ∀ {o : Origin} {vs : List Json}, o.Holds (itemsDepth vs) →
    strictItems? o (ofItems vs) = some vs
  | _, [], _ => rfl
  | o, v :: vs, h => by
    simp only [ofItems, strictItems?]
    rw [strict?_ofJson h.left, strictItems?_ofItems h.right]

theorem strictMembers?_ofMembers : ∀ {o : Origin} {ms : List (String × Json)},
    o.Holds (membersDepth ms) → strictMembers? o (ofMembers ms) = some ms
  | _, [], _ => rfl
  | o, (k, v) :: ms, h => by
    simp only [ofMembers, strictMembers?]
    rw [strict?_ofJson h.left, strictMembers?_ofMembers h.right]

end

mutual

/-- A draft that is a value throughout is the draft of this value. -/
theorem eq_ofJson_of_strict? : ∀ {o : Origin} {d : Draft} {v : Json}, strict? o d = some v →
    d = ofJson v ∧ o.Holds v.depth
  | _, .broken, _, h => by cases h
  | o, .null, _, h => by
    cases h
    exact ⟨rfl, o.holds_zero⟩
  | o, .bool b, _, h => by
    cases h
    exact ⟨rfl, o.holds_zero⟩
  | o, .number n, _, h => by
    obtain ⟨x, rfl, rfl⟩ := Option.map_eq_some_iff.mp h
    exact ⟨rfl, o.holds_zero⟩
  | o, .string s, _, h => by
    obtain ⟨x, rfl, rfl⟩ := Option.map_eq_some_iff.mp h
    exact ⟨rfl, o.holds_zero⟩
  | o, .array items closed, v, h => by
    rw [strict?] at h
    cases hinside : o.inside? with
    | none =>
      rw [hinside] at h
      cases h
    | some inner =>
      rw [hinside] at h
      simp only at h
      split at h
      · next hclosed =>
        obtain ⟨vs, hvs, rfl⟩ := Option.map_eq_some_iff.mp h
        obtain ⟨rfl, hholds⟩ := eq_ofItems_of_strictItems? hvs
        exact ⟨by rw [hclosed, ofJson], .of_inside hinside hholds⟩
      · cases h
  | o, .object members closed, v, h => by
    rw [strict?] at h
    cases hinside : o.inside? with
    | none =>
      rw [hinside] at h
      cases h
    | some inner =>
      rw [hinside] at h
      simp only at h
      split at h
      · next hclosed =>
        obtain ⟨ms, hms, rfl⟩ := Option.map_eq_some_iff.mp h
        obtain ⟨rfl, hholds⟩ := eq_ofMembers_of_strictMembers? hms
        exact ⟨by rw [hclosed, ofJson], .of_inside hinside hholds⟩
      · cases h

theorem eq_ofItems_of_strictItems? : ∀ {o : Origin} {ds : List Draft} {vs : List Json},
    strictItems? o ds = some vs → ds = ofItems vs ∧ o.Holds (itemsDepth vs)
  | o, [], _, h => by
    cases h
    exact ⟨rfl, o.holds_zero⟩
  | o, d :: ds, _, h => by
    rw [strictItems?] at h
    split at h
    · next v vs hv hvs =>
      cases h
      obtain ⟨rfl, hholds⟩ := eq_ofJson_of_strict? hv
      obtain ⟨rfl, hrest⟩ := eq_ofItems_of_strictItems? hvs
      exact ⟨rfl, hholds.max hrest⟩
    · cases h

theorem eq_ofMembers_of_strictMembers? : ∀ {o : Origin} {ds : List (Option String × Draft)}
    {ms : List (String × Json)}, strictMembers? o ds = some ms →
    ds = ofMembers ms ∧ o.Holds (membersDepth ms)
  | o, [], _, h => by
    cases h
    exact ⟨rfl, o.holds_zero⟩
  | _, (none, _) :: _, _, h => by cases h
  | o, (some k, d) :: ds, _, h => by
    unfold strictMembers? at h
    split at h
    · next k v ms hk hv hms =>
      cases h
      cases hk
      obtain ⟨rfl, hholds⟩ := eq_ofJson_of_strict? hv
      obtain ⟨rfl, hrest⟩ := eq_ofMembers_of_strictMembers? hms
      exact ⟨rfl, hholds.max hrest⟩
    · cases h

end

/-- **Only the draft of a value is this value**, and there is room for it. -/
theorem strict?_eq_some_iff {o : Origin} {d : Draft} {v : Json} :
    strict? o d = some v ↔ d = ofJson v ∧ o.Holds v.depth := by
  constructor
  · exact eq_ofJson_of_strict?
  · rintro ⟨rfl, h⟩
    exact strict?_ofJson h

end Draft

end PropertyGraph
