import PropertyGraph.Proofs.Decimal.Characters
import PropertyGraph.Proofs.Json.Strings
import PropertyGraph.Proofs.Text.Readable

/-!
# JSON texts are unambiguous

Two values without doubles that are written into longer texts can be told apart, and from what
follows them, as long as no digit follows.  The kind of a value shows in its first character;
strings are read back; arrays and objects end at their closing bracket.

## Main definitions

* `Json.isIntegral` — a value without doubles.
* `Json.Kind`, `Json.kind` — the kind of a value.

## Main results

* `Decimal.ofInt_append_inj` — a written integer can be told from what follows it.
* `Json.chars_append_inj` — **a written value can be told from what follows it.**
* `Json.readable_text` — the same for its text, as a part of a longer one.
-/

namespace PropertyGraph

open Text

/-! ### Integers -/

namespace Decimal

theorem ofInt_ne_nil (n : Int) : ofInt n ≠ [] := by
  cases n with
  | ofNat n => exact ofNat_ne_nil n
  | negSucc n => exact List.cons_ne_nil _ _

theorem ofNat_injective {m n : Nat} (h : ofNat m = ofNat n) : m = n := by
  rw [← value_ofNat m, h, value_ofNat]

/-- No natural number is written with a minus sign. -/
theorem ofNat_ne_minus (n : Nat) (cs : List Char) : ofNat n ≠ '-' :: cs := by
  intro h
  have hmem : '-' ∈ ofNat n := by rw [h]; exact List.mem_cons_self ..
  exact absurd (isDigit_of_mem_ofNat hmem) (by decide)

theorem ofInt_injective {m n : Int} (h : ofInt m = ofInt n) : m = n := by
  cases m with
  | ofNat m =>
    cases n with
    | ofNat n => rw [ofNat_injective h]
    | negSucc n => exact absurd h (ofNat_ne_minus m _)
  | negSucc m =>
    cases n with
    | ofNat n => exact absurd h.symm (ofNat_ne_minus n _)
    | negSucc n =>
      have hsucc := ofNat_injective (List.cons.inj h).2
      rw [Nat.succ.inj hsucc]

/-- **A written integer can be told from what follows it**, when that is no digit. -/
theorem ofInt_append_inj {m n : Int} {r s : List Char} (hr : Stops isIntegerChar r)
    (hs : Stops isIntegerChar s) (h : ofInt m ++ r = ofInt n ++ s) : m = n ∧ r = s := by
  obtain ⟨hmn, hrs⟩ := append_inj_of_stops (fun _ => isIntegerChar_of_mem_ofInt)
    (fun _ => isIntegerChar_of_mem_ofInt) hr hs h
  exact ⟨ofInt_injective hmn, hrs⟩

theorem readable_text {words : List String} (h : ∀ w ∈ words, Breaks isIntegerChar w) :
    Readable (fun _ : Int => True) text words := by
  intro m n _ _ r s hr hs heq
  have hlist := congrArg String.toList heq
  rw [String.toList_append, String.toList_append, toList_text, toList_text] at hlist
  obtain ⟨hmn, hrs⟩ := ofInt_append_inj (hr.stops h) (hs.stops h) hlist
  exact ⟨hmn, String.toList_inj.mp hrs⟩

end Decimal

namespace Json

/-! ### Kinds -/

mutual

/-- Whether all numbers in a value are integers. -/
def isIntegral : Json → Bool
  | .null => true
  | .bool _ => true
  | .number (.int _) => true
  | .number (.double _) => false
  | .string _ => true
  | .array items => itemsIntegral items
  | .object members => membersIntegral members

/-- Whether all numbers in all items are integers. -/
def itemsIntegral : List Json → Bool
  | [] => true
  | v :: rest => isIntegral v && itemsIntegral rest

/-- Whether all numbers in all members are integers. -/
def membersIntegral : List (String × Json) → Bool
  | [] => true
  | (_, v) :: rest => isIntegral v && membersIntegral rest

end

/-- The kinds of values. -/
inductive Kind where
  /-- The value `null`. -/
  | null
  /-- A truth value. -/
  | bool
  /-- A number. -/
  | number
  /-- A string. -/
  | string
  /-- An array. -/
  | array
  /-- An object. -/
  | object
  deriving DecidableEq

/-- The kind of a value. -/
def kind : Json → Kind
  | .null => .null
  | .bool _ => .bool
  | .number _ => .number
  | .string _ => .string
  | .array _ => .array
  | .object _ => .object

/-- The kind of value that begins with a character, if there is one. -/
def Kind.ofChar? (c : Char) : Option Kind :=
  if c = 'n' then some .null
  else if c = 't' ∨ c = 'f' then some .bool
  else if c = '"' then some .string
  else if c = '[' then some .array
  else if c = '\x7b' then some .object
  else if Decimal.isIntegerChar c then some .number
  else none

theorem Kind.ofChar?_of_isIntegerChar {c : Char} (h : Decimal.isIntegerChar c = true) :
    Kind.ofChar? c = some .number := by
  have hne : ∀ d, Decimal.isIntegerChar d = false → c ≠ d := by
    rintro d hd rfl
    rw [h] at hd
    exact Bool.noConfusion hd
  simp [Kind.ofChar?, h, hne 'n' rfl, hne 't' rfl, hne 'f' rfl, hne '"' rfl, hne '[' rfl,
    hne '\x7b' rfl]

/-- The kind of a value shows in its first character. -/
theorem exists_chars_eq_cons (v : Json) (hv : v.isIntegral = true) :
    ∃ c cs, v.chars = c :: cs ∧ Kind.ofChar? c = some v.kind := by
  cases v with
  | null => exact ⟨'n', _, rfl, rfl⟩
  | bool b => cases b <;> exact ⟨_, _, rfl, rfl⟩
  | number n =>
    cases n with
    | double d => exact Bool.noConfusion hv
    | int n =>
      obtain ⟨c, cs, hcs⟩ := List.exists_cons_of_ne_nil (Decimal.ofInt_ne_nil n)
      have hmem : c ∈ Decimal.ofInt n := by rw [hcs]; exact List.mem_cons_self ..
      exact ⟨c, cs, hcs, Kind.ofChar?_of_isIntegerChar (Decimal.isIntegerChar_of_mem_ofInt hmem)⟩
  | string s => exact ⟨'"', _, rfl, rfl⟩
  | array items => cases items <;> exact ⟨'[', _, rfl, rfl⟩
  | object members => cases members <;> exact ⟨'\x7b', _, rfl, rfl⟩

/-- Values with equal texts in front have equal kinds. -/
theorem kind_eq_of_append_eq {x y : Json} (hx : x.isIntegral = true) (hy : y.isIntegral = true)
    {r s : List Char} (h : x.chars ++ r = y.chars ++ s) : x.kind = y.kind := by
  obtain ⟨c, cs, hxc, hxk⟩ := exists_chars_eq_cons x hx
  obtain ⟨d, ds, hyd, hyk⟩ := exists_chars_eq_cons y hy
  rw [hxc, hyd] at h
  obtain ⟨rfl, -⟩ := List.cons.inj h
  exact Option.some.inj (hxk.symm.trans hyk)

/-- No value begins with a closing bracket. -/
theorem chars_append_ne_bracket {v : Json} (hv : v.isIntegral = true) (r s : List Char) :
    v.chars ++ r ≠ ']' :: s := by
  intro h
  obtain ⟨c, cs, hc, hk⟩ := exists_chars_eq_cons v hv
  rw [hc] at h
  obtain ⟨rfl, -⟩ := List.cons.inj h
  exact absurd hk (by simp [Kind.ofChar?, Decimal.isIntegerChar])

/-! ### Values -/

theorem stops_itemsChars {p : Char → Bool} (hcomma : p ',' = false) (hend : p ']' = false)
    (vs : List Json) (r : List Char) : Stops p (itemsChars vs ++ r) := by
  intro c hc
  cases vs with
  | nil =>
    obtain rfl : ']' = c := Option.some.inj hc
    exact hend
  | cons v vs =>
    obtain rfl : ',' = c := Option.some.inj hc
    exact hcomma

theorem stops_membersChars {p : Char → Bool} (hcomma : p ',' = false) (hend : p '\x7d' = false)
    (ms : List (String × Json)) (r : List Char) : Stops p (membersChars ms ++ r) := by
  intro c hc
  cases ms with
  | nil =>
    obtain rfl : '\x7d' = c := Option.some.inj hc
    exact hend
  | cons m ms =>
    obtain rfl : ',' = c := Option.some.inj hc
    exact hcomma

mutual

/-- **A written value can be told from what follows it**, when that is no digit. -/
theorem chars_append_inj : ∀ {x y : Json}, x.isIntegral = true → y.isIntegral = true →
    ∀ {r s : List Char}, Stops Decimal.isIntegerChar r → Stops Decimal.isIntegerChar s →
    x.chars ++ r = y.chars ++ s → x = y ∧ r = s
  | .null, y, hx, hy, r, s, _, _, h => by
    -- here and below, the first characters leave only values of the same kind
    have hkind := kind_eq_of_append_eq hx hy h
    cases y with
    | null => exact ⟨rfl, List.append_cancel_left h⟩
    | _ => simp [kind] at hkind
  | .bool b, y, hx, hy, r, s, _, _, h => by
    have hkind := kind_eq_of_append_eq hx hy h
    cases y with
    | bool b' => cases b <;> cases b' <;> simp_all [chars]
    | _ => simp [kind] at hkind
  | .number n, y, hx, hy, r, s, hr, hs, h => by
    have hkind := kind_eq_of_append_eq hx hy h
    cases y with
    | number n' =>
      cases n with
      | double d => exact Bool.noConfusion hx
      | int n =>
        cases n' with
        | double d => exact Bool.noConfusion hy
        | int n' =>
          obtain ⟨rfl, hrs⟩ := Decimal.ofInt_append_inj hr hs h
          exact ⟨rfl, hrs⟩
    | _ => simp [kind] at hkind
  | .string t, y, hx, hy, r, s, _, _, h => by
    have hkind := kind_eq_of_append_eq hx hy h
    cases y with
    | string t' =>
      obtain ⟨rfl, hrs⟩ := stringChars_append_inj h
      exact ⟨rfl, hrs⟩
    | _ => simp [kind] at hkind
  | .array xs, y, hx, hy, r, s, _, _, h => by
    have hkind := kind_eq_of_append_eq hx hy h
    cases y with
    | array ys =>
      obtain ⟨rfl, hrs⟩ := arrayChars_append_inj hx hy h
      exact ⟨rfl, hrs⟩
    | _ => simp [kind] at hkind
  | .object xs, y, hx, hy, r, s, _, _, h => by
    have hkind := kind_eq_of_append_eq hx hy h
    cases y with
    | object ys =>
      obtain ⟨rfl, hrs⟩ := objectChars_append_inj hx hy h
      exact ⟨rfl, hrs⟩
    | _ => simp [kind] at hkind

/-- The same for arrays, which end at their closing bracket. -/
theorem arrayChars_append_inj : ∀ {xs ys : List Json}, itemsIntegral xs = true →
    itemsIntegral ys = true → ∀ {r s : List Char},
    (Json.array xs).chars ++ r = (Json.array ys).chars ++ s → xs = ys ∧ r = s
  | [], [], _, _, r, s, h => ⟨rfl, List.append_cancel_left h⟩
  | [], y :: ys, _, hy, r, s, h => by
    simp only [itemsIntegral, Bool.and_eq_true] at hy
    simp only [chars, List.cons_append, List.nil_append, List.append_assoc] at h
    -- the second array has a value where the first one is closed
    exact absurd (List.cons.inj h).2.symm (chars_append_ne_bracket hy.1 _ _)
  | x :: xs, [], hx, _, r, s, h => by
    simp only [itemsIntegral, Bool.and_eq_true] at hx
    simp only [chars, List.cons_append, List.nil_append, List.append_assoc] at h
    exact absurd (List.cons.inj h).2 (chars_append_ne_bracket hx.1 _ _)
  | x :: xs, y :: ys, hx, hy, r, s, h => by
    simp only [itemsIntegral, Bool.and_eq_true] at hx hy
    simp only [chars, List.cons_append, List.append_assoc] at h
    obtain ⟨rfl, hrest⟩ := chars_append_inj hx.1 hy.1 (stops_itemsChars rfl rfl xs r)
      (stops_itemsChars rfl rfl ys s) (List.cons.inj h).2
    obtain ⟨rfl, hrs⟩ := itemsChars_append_inj hx.2 hy.2 hrest
    exact ⟨rfl, hrs⟩

/-- The same for the items after the first one. -/
theorem itemsChars_append_inj : ∀ {xs ys : List Json}, itemsIntegral xs = true →
    itemsIntegral ys = true → ∀ {r s : List Char},
    itemsChars xs ++ r = itemsChars ys ++ s → xs = ys ∧ r = s
  | [], [], _, _, r, s, h => ⟨rfl, List.append_cancel_left h⟩
  | [], y :: ys, _, _, r, s, h => by simp [itemsChars] at h
  | x :: xs, [], _, _, r, s, h => by simp [itemsChars] at h
  | x :: xs, y :: ys, hx, hy, r, s, h => by
    simp only [itemsIntegral, Bool.and_eq_true] at hx hy
    simp only [itemsChars, List.cons_append, List.append_assoc] at h
    obtain ⟨rfl, hrest⟩ := chars_append_inj hx.1 hy.1 (stops_itemsChars rfl rfl xs r)
      (stops_itemsChars rfl rfl ys s) (List.cons.inj h).2
    obtain ⟨rfl, hrs⟩ := itemsChars_append_inj hx.2 hy.2 hrest
    exact ⟨rfl, hrs⟩

/-- The same for objects, which end at their closing brace. -/
theorem objectChars_append_inj : ∀ {xs ys : List (String × Json)}, membersIntegral xs = true →
    membersIntegral ys = true → ∀ {r s : List Char},
    (Json.object xs).chars ++ r = (Json.object ys).chars ++ s → xs = ys ∧ r = s
  | [], [], _, _, r, s, h => ⟨rfl, List.append_cancel_left h⟩
  | [], (k, y) :: ys, _, _, r, s, h => by simp [chars, stringChars] at h
  | (k, x) :: xs, [], _, _, r, s, h => by simp [chars, stringChars] at h
  | (k, x) :: xs, (l, y) :: ys, hx, hy, r, s, h => by
    simp only [membersIntegral, Bool.and_eq_true] at hx hy
    simp only [chars, List.cons_append, List.append_assoc] at h
    obtain ⟨rfl, hvalue⟩ := stringChars_append_inj (List.cons.inj h).2
    obtain ⟨rfl, hrest⟩ := chars_append_inj hx.1 hy.1 (stops_membersChars rfl rfl xs r)
      (stops_membersChars rfl rfl ys s) (List.cons.inj hvalue).2
    obtain ⟨rfl, hrs⟩ := membersChars_append_inj hx.2 hy.2 hrest
    exact ⟨rfl, hrs⟩

/-- The same for the members after the first one. -/
theorem membersChars_append_inj : ∀ {xs ys : List (String × Json)}, membersIntegral xs = true →
    membersIntegral ys = true → ∀ {r s : List Char},
    membersChars xs ++ r = membersChars ys ++ s → xs = ys ∧ r = s
  | [], [], _, _, r, s, h => ⟨rfl, List.append_cancel_left h⟩
  | [], (k, y) :: ys, _, _, r, s, h => by simp [membersChars] at h
  | (k, x) :: xs, [], _, _, r, s, h => by simp [membersChars] at h
  | (k, x) :: xs, (l, y) :: ys, hx, hy, r, s, h => by
    simp only [membersIntegral, Bool.and_eq_true] at hx hy
    simp only [membersChars, List.cons_append, List.append_assoc] at h
    obtain ⟨rfl, hvalue⟩ := stringChars_append_inj (List.cons.inj h).2
    obtain ⟨rfl, hrest⟩ := chars_append_inj hx.1 hy.1 (stops_membersChars rfl rfl xs r)
      (stops_membersChars rfl rfl ys s) (List.cons.inj hvalue).2
    obtain ⟨rfl, hrs⟩ := membersChars_append_inj hx.2 hy.2 hrest
    exact ⟨rfl, hrs⟩

end

theorem readable_text {words : List String} (h : ∀ w ∈ words, Breaks Decimal.isIntegerChar w) :
    Readable (fun v : Json => v.isIntegral = true) text words := by
  intro x y hx hy r s hr hs heq
  have hlist := congrArg String.toList heq
  rw [String.toList_append, String.toList_append, toList_text, toList_text] at hlist
  obtain ⟨hxy, hrs⟩ := chars_append_inj hx hy (hr.stops h) (hs.stops h) hlist
  exact ⟨hxy, String.toList_inj.mp hrs⟩

end Json

end PropertyGraph
