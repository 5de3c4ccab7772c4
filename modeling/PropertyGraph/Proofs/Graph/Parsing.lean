import Mathlib.Algebra.Group.Int.Defs
import Mathlib.Algebra.Group.Nat.Defs
import PropertyGraph.Graph.Identity
import PropertyGraph.Proofs.Decimal.Runs
import PropertyGraph.Proofs.Text.Trimming

/-!
# Identities in decimal digits

A text names an identity when it is a run of decimal digits with nothing but blanks around it, and
the number of the run fits 63 bits.  Parsing finds exactly the identity that a text names, however
many zeros and blanks there are, and hands every other text back as it came.

## Main definitions

* `Names` — a text names an identity.
* `Padded` — a text with more blanks around it, or with more zeros in front of its digits.

## Main results

* `parse_eq_ok_iff` — parsing finds what a text names.
* `Names.padded` — blanks and leading zeros do not matter.
* `parse_exact` — **parsing accepts the decimal texts of 63 bits and no others**.
-/

namespace PropertyGraph

open Text Decimal

/-- No digit is a blank. -/
theorem Text.isBlank_eq_false_of_isDigit {c : Char} (h : c.isDigit = true) : isBlank c = false := by
  rw [Char.isDigit_iff_toNat] at h
  have hlow : 48 ≤ c.toNat := h.1
  have hhigh : c.toNat ≤ 57 := h.2
  simp only [isBlank, Bool.or_eq_false_iff, Bool.and_eq_false_iff, decide_eq_false_iff_not,
    beq_eq_false_iff_ne]
  omega

/-- Digits with only blanks around them are what is left of a text without its blanks. -/
theorem Text.Surrounded.trimmed {cs digits : List Char} (h : Surrounded cs digits)
    (hdigits : ∀ c ∈ digits, c.isDigit = true) : Trimmed cs digits := by
  refine ⟨h, ?_, ?_⟩
  · intro c hc
    exact isBlank_eq_false_of_isDigit (hdigits c (List.mem_of_mem_head? hc))
  · intro c hc
    exact isBlank_eq_false_of_isDigit (hdigits c (List.mem_reverse.mp (List.mem_of_mem_head? hc)))

namespace Identity

variable {s more : String} {id : Identity}

/-- A text names an identity: without the blanks around it, it is a run of decimal digits, and the
number of the run is the one of the identity and fits 63 bits. -/
def Names (s : String) (id : Identity) : Prop :=
  ∃ digits n, Trimmed s.toList digits ∧ Denotes digits n ∧ id.toInt = n ∧ n ≤ 2 ^ 63 - 1

theorem names_of_surrounded {digits : List Char} {n : Nat} (h : Surrounded s.toList digits)
    (hdigits : Denotes digits n) (hid : id.toInt = n) : Names s id := by
  have hbound : id.toInt < 2 ^ 63 := Int64.toInt_lt id.val
  exact ⟨digits, n, h.trimmed hdigits.isDigit, hdigits, hid, by omega⟩

theorem Names.nonneg (h : Names s id) : 0 ≤ id.toInt := by
  obtain ⟨digits, n, -, -, hid, -⟩ := h
  omega

/-! ### Parsing -/

theorem parse_of_names (h : Names s id) : parse s = .ok id := by
  obtain ⟨digits, n, htrim, hdigits, hid, hn⟩ := h
  have hcore : trimChars s.toList = digits := htrim.trimChars_eq
  obtain ⟨hne, hall, hvalue⟩ := denotes_iff.mp hdigits
  have hif : ¬digits.isEmpty = true ∧ digits.all Char.isDigit = true ∧
      value digits < 0x8000000000000000 := by
    refine ⟨?_, List.all_eq_true.mpr hall, ?_⟩
    · rw [List.isEmpty_iff]
      exact hne
    · rw [hvalue]
      omega
  have hsame : (⟨.ofNat n⟩ : Identity) = id := by
    apply toInt_inj.mp
    rw [hid]
    exact Int64.toInt_ofNat_of_lt (by omega)
  simp only [parse]
  rw [hcore, if_pos hif, hvalue, hsame]

theorem names_of_parse (h : parse s = .ok id) : Names s id := by
  simp only [parse] at h
  split at h
  · next hif =>
    obtain ⟨hne, hall, hlt⟩ := hif
    cases h
    have hdigits := denotes_value (fun hnil => hne (List.isEmpty_iff.mpr hnil))
      (List.all_eq_true.mp hall)
    exact ⟨trimChars s.toList, _, trimmed_trimChars _, hdigits, Int64.toInt_ofNat_of_lt hlt,
      by omega⟩
  · cases h

/-- **Parsing finds what a text names.** -/
theorem parse_eq_ok_iff : parse s = .ok id ↔ Names s id :=
  ⟨names_of_parse, parse_of_names⟩

/-- Any other text is handed back as it came. -/
theorem parse_eq_notNumeric (h : ∀ id, ¬Names s id) : parse s = .error (.notNumeric s) := by
  cases hparse : parse s with
  | ok id => exact absurd (names_of_parse hparse) (h id)
  | error e =>
    simp only [parse] at hparse
    split at hparse
    · cases hparse
    · cases hparse
      rfl

/-! ### The text of an identity -/

/-- An identity that is not negative is written with digits only. -/
theorem toList_text_of_nonneg (h : 0 ≤ id.toInt) : id.text.toList = ofNat id.toInt.toNat := by
  obtain ⟨n, hn⟩ := Int.eq_ofNat_of_zero_le h
  rw [text, Decimal.toList_text, hn]
  rfl

theorem names_text (h : 0 ≤ id.toInt) : Names id.text id := by
  refine names_of_surrounded ⟨[], [], ?_, by simp, by simp⟩ (denotes_ofNat id.toInt.toNat) ?_
  · rw [toList_text_of_nonneg h, List.nil_append, List.append_nil]
  · exact (Int.toNat_of_nonneg h).symm

/-- A minus sign is neither a digit nor a blank. -/
theorem not_names_of_mem_minus (h : '-' ∈ s.toList) (id : Identity) : ¬Names s id := by
  rintro ⟨digits, n, htrim, hdigits, -, -⟩
  obtain ⟨⟨before, after, hs, hbefore, hafter⟩, -, -⟩ := htrim
  rw [hs] at h
  rcases List.mem_append.mp h with h | h
  · rcases List.mem_append.mp h with h | h
    · exact absurd (hbefore '-' h) (by decide)
    · exact absurd (hdigits.isDigit '-' h) (by decide)
  · exact absurd (hafter '-' h) (by decide)

theorem minus_mem_text (h : id.toInt < 0) : '-' ∈ id.text.toList := by
  obtain ⟨n, hn⟩ := Int.eq_negSucc_of_lt_zero h
  rw [text, Decimal.toList_text, hn]
  exact List.mem_cons_self ..

/-! ### Blanks and leading zeros -/

/-- A text with more blanks around it, or with more zeros in front of its digits. -/
inductive Padded : String → String → Prop where
  /-- More blanks around it. -/
  | blanks (before s after : String) (hbefore : ∀ c ∈ before.toList, isBlank c = true)
    (hafter : ∀ c ∈ after.toList, isBlank c = true) : Padded s (before ++ s ++ after)
  /-- More zeros in front of the digits, inside the blanks. -/
  | zeros (before digits after : String) (count : Nat)
    (hbefore : ∀ c ∈ before.toList, isBlank c = true)
    (hafter : ∀ c ∈ after.toList, isBlank c = true)
    (hdigits : ∀ c ∈ digits.toList, c.isDigit = true) :
    Padded (before ++ digits ++ after)
      (before ++ (.ofList (List.replicate count '0') ++ digits) ++ after)

theorem surrounded_append {before s after : String}
    (hbefore : ∀ c ∈ before.toList, isBlank c = true)
    (hafter : ∀ c ∈ after.toList, isBlank c = true) :
    Surrounded (before ++ s ++ after).toList s.toList :=
  ⟨before.toList, after.toList, by simp, hbefore, hafter⟩

/-- **Blanks and leading zeros do not matter.** -/
theorem Names.padded (h : Names s id) (hmore : Padded s more) : Names more id := by
  obtain ⟨digits, n, htrim, hdenotes, hid, hn⟩ := h
  cases hmore with
  | blanks before _ after hbefore hafter =>
    have houter := surrounded_append (s := s) hbefore hafter
    exact names_of_surrounded (houter.trans htrim.surrounded) hdenotes hid
  | zeros before digits' after count hbefore hafter hdigits =>
    -- the digits of the text are what is left of it without blanks
    have hinner := surrounded_append (s := digits') hbefore hafter
    have hsame : digits'.toList = digits :=
      (hinner.trimmed hdigits).trimChars_eq.symm.trans htrim.trimChars_eq
    have houter := surrounded_append (s := .ofList (List.replicate count '0') ++ digits')
      hbefore hafter
    rw [String.toList_append (s := String.ofList _), String.toList_ofList, hsame] at houter
    exact names_of_surrounded houter (hdenotes.replicate_zero count) hid

/-- **Parsing accepts the decimal texts of 63 bits and no others.**  It finds an identity in a text
that names it and hands any other text back as it came, with its blanks.  So an identity is found in
its own text when it is not negative, and not otherwise; what is found is never negative; and more
blanks around a text, or more zeros in front of its digits, do not change what is found. -/
theorem parse_exact :
    (∀ s id, parse s = .ok id ↔ Names s id) ∧
    (∀ s, (∀ id, ¬Names s id) → parse s = .error (.notNumeric s)) ∧
    (∀ id : Identity, 0 ≤ id.toInt → parse id.text = .ok id) ∧
    (∀ id : Identity, id.toInt < 0 → parse id.text = .error (.notNumeric id.text)) ∧
    ∀ s id, parse s = .ok id → 0 ≤ id.toInt ∧ ∀ more, Padded s more → parse more = .ok id := by
  refine ⟨fun s id => parse_eq_ok_iff, fun s => parse_eq_notNumeric, ?_, ?_, ?_⟩
  · intro id hid
    exact parse_of_names (names_text hid)
  · intro id hid
    exact parse_eq_notNumeric (not_names_of_mem_minus (minus_mem_text hid))
  · intro s id h
    have hnames := names_of_parse h
    exact ⟨hnames.nonneg, fun more hmore => parse_of_names (hnames.padded hmore)⟩

/-- The largest identity is found between blanks and behind zeros, the next number is not, and
neither is a negative identity in its own text. -/
theorem parse_exact_largest :
    parse ("\u3000\t" ++ "9223372036854775807" ++ "\n") = .ok ⟨.maxValue⟩ ∧
    parse ("\u3000\t" ++ (.ofList (List.replicate 40 '0') ++ "9223372036854775807") ++ "\n")
      = .ok ⟨.maxValue⟩ ∧
    (∀ id, ¬Names " 9223372036854775808" id) ∧
    parse " 9223372036854775808" = .error (.notNumeric " 9223372036854775808") ∧
    parse (Identity.mk (-1)).text = .error (.notNumeric (Identity.mk (-1)).text) := by
  obtain ⟨-, hrest, -, hnegative, hpadded⟩ := parse_exact
  have hparse : parse ("\u3000\t" ++ "9223372036854775807" ++ "\n") = .ok ⟨.maxValue⟩ := by
    decide
  have hbefore : "\u3000\t".toList.all isBlank = true := by decide
  have hafter : "\n".toList.all isBlank = true := by decide
  have hdigits : "9223372036854775807".toList.all Char.isDigit = true := by decide
  have hzeros := Padded.zeros "\u3000\t" "9223372036854775807" "\n" 40
    (List.all_eq_true.mp hbefore) (List.all_eq_true.mp hafter) (List.all_eq_true.mp hdigits)
  have hlarge : ∀ id, ¬Names " 9223372036854775808" id := by
    rintro id ⟨digits, n, htrim, hdigits, -, hn⟩
    have hvalue : value (trimChars " 9223372036854775808".toList) = 2 ^ 63 := by decide
    rw [htrim.trimChars_eq, hdigits.value_eq] at hvalue
    omega
  exact ⟨hparse, (hpadded _ _ hparse).2 _ hzeros, hlarge, hrest _ hlarge, hnegative _ (by decide)⟩

end Identity

end PropertyGraph
