import PropertyGraph.Proofs.Decimal.Numerals
import PropertyGraph.Proofs.Json.Nesting
import PropertyGraph.Proofs.Json.Unambiguous

/-!
# Written values are read back

A value whose numbers are integers of 64 bits is written as a text that a reader takes for the same
value, and reading stops exactly behind it, whatever follows, as long as that does not continue a
number.  The reader is bounded by a number of steps; twice the length of a text is enough for it.

## Main definitions

* `Json.allNumbers` — all numbers in a value are of a kind.
* `Json.fits64` — a value whose numbers are integers from `-2 ^ 63` to `2 ^ 64 - 1`.

## Main results

* `Json.readValue_chars` — **a written value is read back**, for any sufficient number of steps.
* `Json.read_chars` — the same for the reader of texts.
* `Json.read?_text` — **the text of a value is the value again**, as a document of its own.
-/

namespace PropertyGraph

open Text

/-! ### Numbers of 64 bits -/

/-- Whether a number is an integer of 64 bits, with or without sign. -/
def Number.fits64 : Number → Bool
  | .int n => -0x8000000000000000 ≤ n && n < 0x10000000000000000
  | .double _ => false

namespace Json

mutual

/-- Whether all numbers in a value are of a kind. -/
def allNumbers (p : Number → Bool) : Json → Bool
  | .number n => p n
  | .array items => itemsAllNumbers p items
  | .object members => membersAllNumbers p members
  | _ => true

/-- Whether all numbers in all items are of a kind. -/
def itemsAllNumbers (p : Number → Bool) : List Json → Bool
  | [] => true
  | v :: rest => allNumbers p v && itemsAllNumbers p rest

/-- Whether all numbers in the values of all members are of a kind. -/
def membersAllNumbers (p : Number → Bool) : List (String × Json) → Bool
  | [] => true
  | (_, v) :: rest => allNumbers p v && membersAllNumbers p rest

end

/-- Whether all numbers in a value are integers of 64 bits, with or without sign. -/
def fits64 (v : Json) : Bool :=
  v.allNumbers Number.fits64

/-- An integer of 64 bits with sign fits. -/
theorem fits64_int {n : Int} (hmin : -0x8000000000000000 ≤ n) (hmax : n < 0x8000000000000000) :
    (Json.number (.int n)).fits64 = true := by
  show (-0x8000000000000000 ≤ n && n < 0x10000000000000000 : Bool) = true
  rw [Bool.and_eq_true, decide_eq_true_iff, decide_eq_true_iff]
  omega

mutual

theorem isIntegral_of_allNumbers {p : Number → Bool} (hp : ∀ d, p (.double d) = false) :
    ∀ {v : Json}, v.allNumbers p = true → v.isIntegral = true
  | .null, _ => rfl
  | .bool _, _ => rfl
  | .number (.int _), _ => rfl
  | .number (.double d), h => by
    rw [allNumbers, hp] at h
    cases h
  | .string _, _ => rfl
  | .array _, h => itemsIntegral_of_allNumbers hp h
  | .object _, h => membersIntegral_of_allNumbers hp h

theorem itemsIntegral_of_allNumbers {p : Number → Bool} (hp : ∀ d, p (.double d) = false) :
    ∀ {vs : List Json}, itemsAllNumbers p vs = true → itemsIntegral vs = true
  | [], _ => rfl
  | v :: vs, h => by
    rw [itemsAllNumbers, Bool.and_eq_true] at h
    rw [itemsIntegral, Bool.and_eq_true]
    exact ⟨isIntegral_of_allNumbers hp h.1, itemsIntegral_of_allNumbers hp h.2⟩

theorem membersIntegral_of_allNumbers {p : Number → Bool} (hp : ∀ d, p (.double d) = false) :
    ∀ {ms : List (String × Json)}, membersAllNumbers p ms = true → membersIntegral ms = true
  | [], _ => rfl
  | (k, v) :: ms, h => by
    rw [membersAllNumbers, Bool.and_eq_true] at h
    rw [membersIntegral, Bool.and_eq_true]
    exact ⟨isIntegral_of_allNumbers hp h.1, membersIntegral_of_allNumbers hp h.2⟩

end

theorem isIntegral_of_fits64 {v : Json} (h : v.fits64 = true) : v.isIntegral = true :=
  isIntegral_of_allNumbers (fun _ => rfl) h

/-! ### One step of the reader -/

theorem skipBlanks_cons {c : Char} (h : isBlank c = false) (cs : List Char) :
    skipBlanks (c :: cs) = c :: cs := by
  simp [skipBlanks, h]

/-- A value begins with a character that is no blank and closes nothing. -/
theorem exists_chars_eq_cons_ne {v : Json} (hv : v.isIntegral = true) :
    ∃ c cs, v.chars = c :: cs ∧ isBlank c = false ∧ c ≠ ']' := by
  obtain ⟨c, cs, hc, hkind⟩ := exists_chars_eq_cons v hv
  have hother : ∀ d, Kind.ofChar? d = none → c ≠ d := by
    rintro d hd rfl
    rw [hkind] at hd
    cases hd
  refine ⟨c, cs, hc, ?_, hother ']' (by decide)⟩
  simp [isBlank, hother ' ' (by decide), hother '\n' (by decide), hother '\t' (by decide),
    hother '\r' (by decide)]

end Json

namespace Draft

open Json

variable {fuel : Nat} {c : Char} {cs rest : List Char} {d : Draft}

theorem readValue_number (h : Decimal.isIntegerChar c = true) {x : Numeral}
    (hread : Numeral.read (c :: cs) = some (x, rest)) :
    readValue (fuel + 1) (c :: cs) = (.number x.value?, some rest) := by
  have hne : ∀ d, Decimal.isIntegerChar d = false → c ≠ d := by
    rintro d hd rfl
    rw [h] at hd
    cases hd
  have hblank : isBlank c = false := by
    simp [isBlank, hne ' ' rfl, hne '\n' rfl, hne '\t' rfl, hne '\r' rfl]
  rw [readValue, skipBlanks_cons hblank]
  split
  case h_7 => rw [hread]
  all_goals
    -- the other values begin with a character that no number begins with
    next heq =>
    obtain ⟨rfl, -⟩ := List.cons.inj heq
    exact absurd h (by decide)

theorem readValue_string (s : String) :
    readValue (fuel + 1) (stringChars s ++ rest) = (.string (some s), some rest) := by
  have hquote : stringChars s ++ rest = '"' :: (s.toList.flatMap escapedChar ++ '"' :: rest) := by
    simp [stringChars]
  rw [hquote, readValue, skipBlanks_cons rfl]
  simp only
  rw [readString_written]

theorem readValue_array (hblank : isBlank c = false) (hc : c ≠ ']') {items : List Draft}
    (h : readItems fuel (c :: cs) = (items, some rest)) :
    readValue (fuel + 1) ('[' :: c :: cs) = (.array items true, some rest) := by
  rw [readValue, skipBlanks_cons rfl]
  simp only
  rw [skipBlanks_cons hblank]
  split
  · next heq => exact absurd (List.cons.inj heq).1 hc
  · rw [h]
    rfl

theorem readValue_object {members : List (Option String × Draft)}
    (h : readMembers fuel ('"' :: cs) = (members, some rest)) :
    readValue (fuel + 1) ('\x7b' :: '"' :: cs) = (.object members true, some rest) := by
  rw [readValue, skipBlanks_cons rfl]
  simp only
  rw [skipBlanks_cons rfl]
  show (object (readMembers fuel ('"' :: cs)).1 (readMembers fuel ('"' :: cs)).2.isSome,
    (readMembers fuel ('"' :: cs)).2) = _
  rw [h]
  rfl

theorem readItems_last (h : readValue fuel cs = (d, some (']' :: rest))) :
    readItems (fuel + 1) cs = ([d], some rest) := by
  rw [readItems, h]
  simp only
  rw [skipBlanks_cons rfl]
  rfl

theorem readItems_cons (h : readValue fuel cs = (d, some (',' :: rest)))
    {items : List Draft} {r : Option (List Char)} (hrest : readItems fuel rest = (items, r)) :
    readItems (fuel + 1) cs = (d :: items, r) := by
  rw [readItems, h]
  simp only
  rw [skipBlanks_cons rfl]
  simp only
  rw [hrest]

/-- A member begins with its key and a colon; its value and what follows come after them. -/
theorem readMembers_key (k : String) (h : readValue fuel cs = (d, some (c :: rest)))
    (hblank : isBlank c = false) :
    readMembers (fuel + 1) (stringChars k ++ ':' :: cs) =
      if c = '\x7d' then ([(some k, d)], some rest)
      else if c = ',' then ((some k, d) :: (readMembers fuel rest).1, (readMembers fuel rest).2)
      else ([(some k, d)], none) := by
  have hquote : stringChars k ++ ':' :: cs
      = '"' :: (k.toList.flatMap escapedChar ++ '"' :: ':' :: cs) := by
    simp [stringChars]
  rw [hquote, readMembers, skipBlanks_cons rfl]
  simp only
  rw [readString_written]
  simp only
  rw [skipBlanks_cons rfl]
  simp only
  rw [h]
  simp only
  rw [skipBlanks_cons hblank]
  split
  · next heq =>
    obtain ⟨rfl, rfl⟩ := List.cons.inj heq
    rw [if_pos rfl]
  · next heq =>
    obtain ⟨rfl, rfl⟩ := List.cons.inj heq
    rw [if_neg (by decide), if_pos rfl]
  · next hbrace hcomma =>
    rw [if_neg fun hc => hbrace rest (by rw [hc]), if_neg fun hc => hcomma rest (by rw [hc])]

theorem readMembers_last {k : String} (h : readValue fuel cs = (d, some ('\x7d' :: rest))) :
    readMembers (fuel + 1) (stringChars k ++ ':' :: cs) = ([(some k, d)], some rest) := by
  rw [readMembers_key k h rfl, if_pos rfl]

theorem readMembers_cons {k : String} (h : readValue fuel cs = (d, some (',' :: rest)))
    {members : List (Option String × Draft)} {r : Option (List Char)}
    (hrest : readMembers fuel rest = (members, r)) :
    readMembers (fuel + 1) (stringChars k ++ ':' :: cs) = ((some k, d) :: members, r) := by
  rw [readMembers_key k h rfl, if_neg (by decide), if_pos rfl, hrest]

end Draft

namespace Json

/-! ### Reading back -/

theorem length_chars_pos {v : Json} (h : v.fits64 = true) : 0 < v.chars.length := by
  obtain ⟨c, cs, hc, -⟩ := exists_chars_eq_cons v (isIntegral_of_fits64 h)
  rw [hc, List.length_cons]
  omega

/-- An integer is read back. -/
theorem readValue_int {n : Int} (h : (Json.number (.int n)).fits64 = true) (fuel : Nat)
    {rest : List Char} (hrest : Stops Numeral.continues rest) :
    Draft.readValue (fuel + 1) (Decimal.ofInt n ++ rest)
      = (.number (some (.int n)), some rest) := by
  simp only [fits64, allNumbers, Number.fits64, Bool.and_eq_true, decide_eq_true_eq] at h
  obtain ⟨c, cs, hc⟩ := List.exists_cons_of_ne_nil (Decimal.ofInt_ne_nil n)
  have hchar : Decimal.isIntegerChar c = true := by
    refine Decimal.isIntegerChar_of_mem_ofInt (n := n) ?_
    rw [hc]
    exact List.mem_cons_self ..
  have hread := Numeral.read_ofInt n hrest
  rw [hc, List.cons_append] at hread
  rw [hc, List.cons_append, Draft.readValue_number hchar hread, Numeral.value?_ofInt h.1 h.2]

mutual

/-- **A written value is read back**, and reading stops behind it. -/
theorem readValue_chars : ∀ (v : Json), v.fits64 = true → ∀ (fuel : Nat) (rest : List Char),
    2 * v.chars.length ≤ fuel → Stops Numeral.continues rest →
    Draft.readValue fuel (v.chars ++ rest) = (.ofJson v, some rest)
  | .null, _, fuel + 1, rest, _, _ => by
    simp [chars, Draft.readValue, skipBlanks_cons, isBlank, Draft.ofJson]
  | .bool true, _, fuel + 1, rest, _, _ => by
    simp [chars, Draft.readValue, skipBlanks_cons, isBlank, Draft.ofJson]
  | .bool false, _, fuel + 1, rest, _, _ => by
    simp [chars, Draft.readValue, skipBlanks_cons, isBlank, Draft.ofJson]
  | .number (.int n), h, fuel + 1, rest, _, hrest => readValue_int h fuel hrest
  | .string s, _, fuel + 1, rest, _, _ => Draft.readValue_string s
  | .array [], _, fuel + 1, rest, _, _ => by
    simp [chars, Draft.readValue, skipBlanks_cons, isBlank, Draft.ofJson, Draft.ofItems]
  | .array (v :: vs), h, fuel + 1, rest, hfuel, _ => by
    simp only [fits64, allNumbers, itemsAllNumbers, Bool.and_eq_true] at h
    simp only [chars, List.cons_append, List.append_assoc, List.length_cons, List.length_append]
      at hfuel ⊢
    obtain ⟨c, cs, hc, hblank, hbracket⟩ := exists_chars_eq_cons_ne (isIntegral_of_fits64 h.1)
    have hitems := readItems_chars v vs h.1 h.2 fuel rest (by omega)
    rw [hc, List.cons_append] at hitems ⊢
    exact Draft.readValue_array hblank hbracket hitems
  | .object [], _, fuel + 1, rest, _, _ => by
    simp [chars, Draft.readValue, skipBlanks_cons, isBlank, Draft.ofJson, Draft.ofMembers]
  | .object ((k, v) :: ms), h, fuel + 1, rest, hfuel, _ => by
    simp only [fits64, allNumbers, membersAllNumbers, Bool.and_eq_true] at h
    simp only [chars, List.cons_append, List.append_assoc, List.length_cons, List.length_append]
      at hfuel ⊢
    exact Draft.readValue_object (readMembers_chars k v ms h.1 h.2 fuel rest (by omega))
  | v, h, 0, rest, hfuel, _ => by
    have hpos := length_chars_pos h
    omega

/-- The same for the items of an array. -/
theorem readItems_chars : ∀ (v : Json) (vs : List Json), v.fits64 = true →
    itemsAllNumbers Number.fits64 vs = true → ∀ (fuel : Nat) (rest : List Char),
    2 * (v.chars.length + (itemsChars vs).length) ≤ fuel + 1 →
    Draft.readItems fuel (v.chars ++ (itemsChars vs ++ rest))
      = (.ofJson v :: Draft.ofItems vs, some rest)
  | v, vs, hv, hvs, 0, rest, hfuel => by
    have hpos := length_chars_pos hv
    omega
  | v, [], hv, _, fuel + 1, rest, hfuel => by
    simp only [itemsChars, List.length_singleton] at hfuel
    have hvalue := readValue_chars v hv fuel (itemsChars [] ++ rest) (by omega)
      (stops_itemsChars rfl rfl [] rest)
    exact Draft.readItems_last hvalue
  | v, w :: ws, hv, hws, fuel + 1, rest, hfuel => by
    rw [itemsAllNumbers, Bool.and_eq_true] at hws
    simp only [itemsChars, List.length_cons, List.length_append] at hfuel
    have hvalue := readValue_chars v hv fuel (itemsChars (w :: ws) ++ rest) (by omega)
      (stops_itemsChars rfl rfl (w :: ws) rest)
    have hnext := readItems_chars w ws hws.1 hws.2 fuel rest (by omega)
    simp only [itemsChars, List.cons_append, List.append_assoc] at hvalue ⊢
    exact Draft.readItems_cons hvalue hnext

/-- The same for the members of an object. -/
theorem readMembers_chars : ∀ (k : String) (v : Json) (ms : List (String × Json)),
    v.fits64 = true → membersAllNumbers Number.fits64 ms = true →
    ∀ (fuel : Nat) (rest : List Char),
    2 * (v.chars.length + (membersChars ms).length) ≤ fuel + 1 →
    Draft.readMembers fuel (stringChars k ++ ':' :: (v.chars ++ (membersChars ms ++ rest)))
      = ((some k, .ofJson v) :: Draft.ofMembers ms, some rest)
  | k, v, ms, hv, hms, 0, rest, hfuel => by
    have hpos := length_chars_pos hv
    omega
  | k, v, [], hv, _, fuel + 1, rest, hfuel => by
    simp only [membersChars, List.length_singleton] at hfuel
    have hvalue := readValue_chars v hv fuel (membersChars [] ++ rest) (by omega)
      (stops_membersChars rfl rfl [] rest)
    exact Draft.readMembers_last hvalue
  | k, v, (l, w) :: ms, hv, hms, fuel + 1, rest, hfuel => by
    rw [membersAllNumbers, Bool.and_eq_true] at hms
    simp only [membersChars, List.length_cons, List.length_append] at hfuel
    have hvalue := readValue_chars v hv fuel (membersChars ((l, w) :: ms) ++ rest) (by omega)
      (stops_membersChars rfl rfl ((l, w) :: ms) rest)
    have hnext := readMembers_chars l w ms hms.1 hms.2 fuel rest (by omega)
    simp only [membersChars, List.cons_append, List.append_assoc] at hvalue ⊢
    exact Draft.readMembers_cons hvalue hnext

end

/-- **A written value is read back** by the reader of texts. -/
theorem read_chars {v : Json} (h : v.fits64 = true) {rest : List Char}
    (hrest : Stops Numeral.continues rest) :
    Draft.read (v.chars ++ rest) = (.ofJson v, some rest) := by
  refine readValue_chars v h _ rest ?_ hrest
  rw [List.length_append]
  omega

/-- Nothing follows a value in its text. -/
theorem read_text {v : Json} (h : v.fits64 = true) :
    Draft.read v.text.toList = (.ofJson v, some []) := by
  have hstops : Stops Numeral.continues [] := by
    intro c hc
    cases hc
  have hchars := read_chars h hstops
  rwa [List.append_nil, ← toList_text] at hchars

/-- **The text of a value is the value again**, where nesting is less than 128 deep. -/
theorem read?_text {v : Json} (h : v.fits64 = true) (hdepth : v.depth < 128) :
    read? v.text = some v := by
  have hstrict : (Draft.ofJson v).strict? .document = some v :=
    Draft.strict?_ofJson (o := .document) (Nat.le_of_lt_succ hdepth)
  unfold read?
  rw [read_text h]
  exact hstrict

end Json

end PropertyGraph
