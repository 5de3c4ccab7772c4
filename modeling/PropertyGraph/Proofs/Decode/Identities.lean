import PropertyGraph.Proofs.Decode.Endpoints
import PropertyGraph.Proofs.Graph.Parsing
import PropertyGraph.Proofs.Graph.Words

/-!
# The shapes of an identity

An identity is written as an integer, as a text of digits, or as an object with two words.  The
shape of a value is found first, and only then is it checked whether the text or the words make an
identity; so each fault belongs to one shape, and a value of no shape has a fault of its own.

## Main definitions

* `WordsFrom` — the two words that a value gives.
* `IdentityFrom` — a value that gives an identity.
* `IdentityFault` — a value that gives none, with its fault.

## Main results

* `words?_eq_some_iff` — the words of an object are found by name.
* `from_or_fault` — a value gives an identity or has a fault.
* `identity_exact` — **an identity is read from its three shapes and from nothing else**.
-/

namespace PropertyGraph.Decode

open Identity

variable {members : List (String × Json)} {v : Json} {id : Identity}

/-! ### Words -/

/-- The two words that a value gives: an object has both as integers of 64 bits, whatever else is in
it. -/
def WordsFrom (v : Json) (low high : Int64) : Prop :=
  ∃ members, v = .object members ∧
    ("low", .number (.int low.toInt)) ∈ members ∧ ("high", .number (.int high.toInt)) ∈ members

theorem words?_eq_some_iff (h : (Entries.keys members).Nodup) {low high : Int64} :
    words? members = some (low, high) ↔ WordsFrom (.object members) low high := by
  simp only [words?, Option.bind_eq_bind, Option.bind_eq_some_iff, single?_eq_some_iff h,
    Json.toInt64?_eq_some_iff]
  constructor
  · rintro ⟨_, hlow, l, rfl, _, hhigh, u, rfl, hsome⟩
    cases hsome
    exact ⟨members, rfl, hlow, hhigh⟩
  · rintro ⟨_, hv, hlow, hhigh⟩
    cases hv
    exact ⟨_, hlow, low, rfl, _, hhigh, high, rfl, rfl⟩

/-! ### Shapes -/

/-- A value without any shape of an identity: no integer of 64 bits, no text, and no object with two
words. -/
structure Shapeless (v : Json) : Prop where
  /-- It is no integer of 64 bits with sign. -/
  noInteger : ∀ n : Int64, v ≠ .number (.int n.toInt)
  /-- It is no text. -/
  noText : ∀ s, v ≠ .string s
  /-- It has not both words. -/
  noWords : ∀ low high, ¬WordsFrom v low high

/-- A value that gives an identity. -/
inductive IdentityFrom : Json → Identity → Prop where
  /-- An integer of 64 bits with sign. -/
  | integer (n : Int64) : IdentityFrom (.number (.int n.toInt)) ⟨n⟩
  /-- A text in which parsing finds it. -/
  | text {s : String} {id : Identity} (h : Identity.parse s = .ok id) : IdentityFrom (.string s) id
  /-- An object with two words of 32 bits; the lower one may be given with or without sign. -/
  | words {v : Json} {low high : Int64} {id : Identity} (h : WordsFrom v low high)
    (hlow : LowFits low.toInt) (hhigh : HighFits high.toInt)
    (hid : id.toInt = high.toInt * 2 ^ 32 + low.toInt % 2 ^ 32) : IdentityFrom v id

/-- A value that gives no identity, with its fault. -/
inductive IdentityFault : Json → Fault → Prop where
  /-- A text in which parsing finds none. -/
  | text {s : String} (h : ∀ id, Identity.parse s ≠ .ok id) :
    IdentityFault (.string s) (.identity (.notNumeric s))
  /-- A lower word of more than 32 bits, whatever the upper one is. -/
  | low {v : Json} {low high : Int64} (h : WordsFrom v low high) (hlow : ¬LowFits low.toInt) :
    IdentityFault v (.identity (.wordOutOfRange low))
  /-- An upper word of more than 32 bits, when the lower one fits. -/
  | high {v : Json} {low high : Int64} (h : WordsFrom v low high) (hlow : LowFits low.toInt)
    (hhigh : ¬HighFits high.toInt) : IdentityFault v (.identity (.wordOutOfRange high))
  /-- A value of no shape. -/
  | shapeless {v : Json} (h : Shapeless v) : IdentityFault v (.unrecognized .identity)

/-- How an identity is read from each shape. -/
theorem ofValue_integer (n : Int64) : ofValue identity (.number (.int n.toInt)) = .ok ⟨n⟩ := by
  rw [ofValue_identity]
  simp only [identityOf]
  rw [Json.toInt64?_eq_some_iff.mpr rfl]

theorem ofValue_words (h : v.namesDistinct = true) {low high : Int64}
    (hwords : WordsFrom v low high) :
    ofValue identity v = (ofWideWords low high).mapError .identity := by
  obtain ⟨members, rfl, hmem⟩ := hwords
  have hnodup := (Json.namesDistinct_object.mp h).1
  rw [ofValue_identity]
  simp only [identityOf]
  rw [(words?_eq_some_iff hnodup).mpr ⟨members, rfl, hmem⟩]

theorem ofValue_shapeless (h : v.namesDistinct = true) (hv : Shapeless v) :
    ofValue identity v = .error (.unrecognized .identity) := by
  rw [ofValue_identity]
  cases v with
  | number n =>
    have hnone : (Json.number n).toInt64? = none := by
      cases hn : (Json.number n).toInt64? with
      | none => rfl
      | some k => exact absurd (Json.toInt64?_eq_some_iff.mp hn) (hv.noInteger k)
    simp only [identityOf]
    rw [hnone]
  | string s => exact absurd rfl (hv.noText s)
  | object members =>
    have hnone : words? members = none := by
      cases hwords : words? members with
      | none => rfl
      | some words =>
        have hnodup := (Json.namesDistinct_object.mp h).1
        exact absurd ((words?_eq_some_iff hnodup).mp hwords) (hv.noWords words.1 words.2)
    simp only [identityOf]
    rw [hnone]
  | _ => rfl

/-- A value has one of the shapes, or none. -/
theorem shape_cases (v : Json) :
    (∃ n : Int64, v = .number (.int n.toInt)) ∨ (∃ s, v = .string s) ∨
      (∃ low high, WordsFrom v low high) ∨ Shapeless v := by
  by_cases hinteger : ∃ n : Int64, v = .number (.int n.toInt)
  · exact .inl hinteger
  by_cases htext : ∃ s, v = .string s
  · exact .inr (.inl htext)
  by_cases hwords : ∃ low high, WordsFrom v low high
  · exact .inr (.inr (.inl hwords))
  · refine .inr (.inr (.inr ⟨?_, ?_, ?_⟩))
    · intro n hn
      exact hinteger ⟨n, hn⟩
    · intro s hs
      exact htext ⟨s, hs⟩
    · intro low high h
      exact hwords ⟨low, high, h⟩

/-! ### What is read -/

theorem IdentityFrom.ofValue_eq (h : v.namesDistinct = true) (hv : IdentityFrom v id) :
    ofValue identity v = .ok id := by
  cases hv with
  | integer n => exact ofValue_integer n
  | text hparse =>
    rw [ofValue_identity]
    simp only [identityOf]
    rw [hparse]
    rfl
  | words hwords hlow hhigh hid =>
    rw [ofValue_words h hwords]
    rcases ofWideWords_cases _ _ with ⟨-, -, id', hok, hid'⟩ | ⟨hlow', -⟩ | ⟨-, hhigh', -⟩
    · have hsame : id' = id := toInt_inj.mp (hid'.trans hid.symm)
      rw [hok, hsame]
      rfl
    · exact absurd hlow hlow'
    · exact absurd hhigh hhigh'

theorem IdentityFault.ofValue_eq (h : v.namesDistinct = true) {fault : Fault}
    (hv : IdentityFault v fault) : ofValue identity v = .error fault := by
  cases hv with
  | @text s hparse =>
    have herror : Identity.parse s = .error (.notNumeric s) :=
      parse_eq_notNumeric fun id hid => hparse id (parse_of_names hid)
    rw [ofValue_identity]
    simp only [identityOf]
    rw [herror]
    rfl
  | low hwords hlow =>
    rw [ofValue_words h hwords]
    rcases ofWideWords_cases _ _ with ⟨hlow', -⟩ | ⟨-, herror⟩ | ⟨hlow', -⟩
    · exact absurd hlow' hlow
    · rw [herror]
      rfl
    · exact absurd hlow' hlow
  | high hwords hlow hhigh =>
    rw [ofValue_words h hwords]
    rcases ofWideWords_cases _ _ with ⟨-, hhigh', -⟩ | ⟨hlow', -⟩ | ⟨-, -, herror⟩
    · exact absurd hhigh' hhigh
    · exact absurd hlow hlow'
    · rw [herror]
      rfl
  | shapeless hv => exact ofValue_shapeless h hv

/-- **A value gives an identity or has a fault.** -/
theorem from_or_fault (v : Json) : (∃ id, IdentityFrom v id) ∨ ∃ fault, IdentityFault v fault := by
  rcases shape_cases v with ⟨n, rfl⟩ | ⟨s, rfl⟩ | ⟨low, high, hwords⟩ | hv
  · exact .inl ⟨_, .integer n⟩
  · by_cases hparse : ∃ id, Identity.parse s = .ok id
    · obtain ⟨id, hid⟩ := hparse
      exact .inl ⟨id, .text hid⟩
    · exact .inr ⟨_, .text fun id hid => hparse ⟨id, hid⟩⟩
  · rcases ofWideWords_cases low high with ⟨hlow, hhigh, id, -, hid⟩ | ⟨hlow, -⟩ | ⟨hlow, hhigh, -⟩
    · exact .inl ⟨id, .words hwords hlow hhigh hid⟩
    · exact .inr ⟨_, .low hwords hlow⟩
    · exact .inr ⟨_, .high hwords hlow hhigh⟩
  · exact .inr ⟨_, .shapeless hv⟩

/-- **An identity is read from its three shapes and from nothing else.**  Any other value has the
fault of its shape: a text that parsing refuses is handed back, of two words the lower one is blamed
first, and all the rest is not recognized. -/
theorem identity_exact (h : v.namesDistinct = true) :
    (∀ id, ofValue identity v = .ok id ↔ IdentityFrom v id) ∧
    ∀ fault, ofValue identity v = .error fault ↔ IdentityFault v fault := by
  constructor
  · intro id
    refine ⟨fun hok => ?_, fun hfrom => hfrom.ofValue_eq h⟩
    rcases from_or_fault v with ⟨id', hfrom⟩ | ⟨fault, hfault⟩
    · rw [hfrom.ofValue_eq h] at hok
      cases hok
      exact hfrom
    · rw [hfault.ofValue_eq h] at hok
      cases hok
  · intro fault
    refine ⟨fun herror => ?_, fun hfault => hfault.ofValue_eq h⟩
    rcases from_or_fault v with ⟨id, hfrom⟩ | ⟨fault', hfault⟩
    · rw [hfrom.ofValue_eq h] at herror
      cases herror
    · rw [hfault.ofValue_eq h] at herror
      cases herror
      exact hfault

/-- Two words that are both too large, among other members. -/
def largeWords : Json :=
  .object [
    ("high", .number (.int 0x80000000)),
    ("id", .null),
    ("low", .number (.int 0x100000000))]

/-- Of two words that are too large the lower one is blamed, wherever it stands. -/
theorem identity_exact_largeWords :
    largeWords.namesDistinct = true ∧
    IdentityFault largeWords (.identity (.wordOutOfRange 0x100000000)) ∧
    ofValue identity largeWords = .error (.identity (.wordOutOfRange 0x100000000)) := by
  have hnames : largeWords.namesDistinct = true := by decide
  have hlow : Int64.toInt 0x100000000 = 0x100000000 := by decide
  have hhigh : Int64.toInt 0x80000000 = 0x80000000 := by decide
  have hwords : WordsFrom largeWords 0x100000000 0x80000000 := by
    refine ⟨_, rfl, ?_, ?_⟩
    · simp [hlow]
    · simp [hhigh]
  have hlarge : ¬LowFits (Int64.toInt 0x100000000) := by
    rw [hlow]
    exact fun h => absurd h.2 (by decide)
  have hfault := IdentityFault.low hwords hlarge
  exact ⟨hnames, hfault, ((identity_exact hnames).2 _).mpr hfault⟩

end PropertyGraph.Decode
