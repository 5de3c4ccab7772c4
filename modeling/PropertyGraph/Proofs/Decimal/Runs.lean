import Mathlib.Data.List.Induction
import PropertyGraph.Decimal.Digits

/-!
# Runs of digits and their numbers

What a run of decimal digits stands for is said here digit by digit, without folding over the run:
one digit stands for itself, and one more digit behind a run makes ten times its number and the
digit.  The value of a run is this number, zeros in front of it do not change it, and the digits
that a number is written with are such a run.

## Main definitions

* `Denotes` — a run of decimal digits stands for a number.

## Main results

* `denotes_iff` — **the value of a run is the number that it stands for**.
* `Denotes.replicate_zero` — leading zeros do not matter.
* `denotes_ofNat` — written digits stand for their number.
-/

namespace PropertyGraph.Decimal

/-- A run of decimal digits, of which there is at least one, stands for a number. -/
inductive Denotes : List Char → Nat → Prop where
  /-- One digit. -/
  | digit (d : Nat) (h : d < 10) : Denotes [Nat.digitChar d] d
  /-- One more digit behind a run. -/
  | more {cs : List Char} {n : Nat} (front : Denotes cs n) (d : Nat) (h : d < 10) :
    Denotes (cs ++ [Nat.digitChar d]) (10 * n + d)

variable {cs : List Char} {n : Nat}

/-- A digit is the character of a number below ten. -/
theorem exists_digitChar {c : Char} (h : c.isDigit = true) : ∃ d < 10, c = Nat.digitChar d := by
  rw [Char.isDigit_iff_toNat] at h
  have hlow : 48 ≤ c.toNat := h.1
  have hhigh : c.toNat ≤ 57 := h.2
  refine ⟨c.toNat - 48, by omega, ?_⟩
  have hnat : (Nat.digitChar (c.toNat - 48)).toNat = c.toNat := by
    rw [Nat.toNat_digitChar_of_lt_ten (by omega)]
    omega
  exact (Char.toNat_inj.mp hnat).symm

/-- One more digit behind a run counts one, and all the others count ten times as much. -/
theorem value_concat (cs : List Char) {d : Nat} (h : d < 10) :
    value (cs ++ [Nat.digitChar d]) = 10 * value cs + d := by
  unfold value
  rw [Nat.ofDigitChars_append, Nat.ofDigitChars_cons_digitChar_of_lt_ten h, Nat.ofDigitChars_nil]

theorem Denotes.ne_nil (h : Denotes cs n) : cs ≠ [] := by
  cases h <;> simp

theorem Denotes.isDigit (h : Denotes cs n) : ∀ c ∈ cs, c.isDigit = true := by
  induction h with
  | digit d h =>
    intro c hc
    rw [List.mem_singleton.mp hc]
    simp [h]
  | more front d h ih =>
    intro c hc
    rcases List.mem_append.mp hc with hc | hc
    · exact ih c hc
    · rw [List.mem_singleton.mp hc]
      simp [h]

theorem Denotes.value_eq (h : Denotes cs n) : value cs = n := by
  induction h with
  | digit d h => simpa [value] using value_concat [] h
  | more front d h ih => rw [value_concat _ h, ih]

/-- Every run of digits stands for its value. -/
theorem denotes_value (hne : cs ≠ []) (h : ∀ c ∈ cs, c.isDigit = true) : Denotes cs (value cs) := by
  induction cs using List.reverseRecOn with
  | nil => exact absurd rfl hne
  | append_singleton front c ih =>
    obtain ⟨d, hd, rfl⟩ := exists_digitChar (h c (by simp))
    rw [value_concat front hd]
    cases front with
    | nil => simpa [value] using Denotes.digit d hd
    | cons a as => exact .more (ih (by simp) fun c hc => h c (List.mem_append_left _ hc)) d hd

/-- **The value of a run is the number that it stands for.** -/
theorem denotes_iff : Denotes cs n ↔ cs ≠ [] ∧ (∀ c ∈ cs, c.isDigit = true) ∧ value cs = n := by
  constructor
  · intro h
    exact ⟨h.ne_nil, h.isDigit, h.value_eq⟩
  · rintro ⟨hne, hdigits, rfl⟩
    exact denotes_value hne hdigits

/-- **Leading zeros do not matter.** -/
theorem Denotes.replicate_zero (h : Denotes cs n) (zeros : Nat) :
    Denotes (List.replicate zeros '0' ++ cs) n := by
  refine denotes_iff.mpr ⟨?_, ?_, ?_⟩
  · intro hnil
    exact h.ne_nil (List.append_eq_nil_iff.mp hnil).2
  · intro c hc
    rcases List.mem_append.mp hc with hc | hc
    · rw [List.eq_of_mem_replicate hc]
      rfl
    · exact h.isDigit c hc
  · have hzero : value (List.replicate zeros '0' ++ cs) = value cs := by
      unfold value
      rw [Nat.ofDigitChars_append, Nat.ofDigitChars_replicate_zero, Nat.mul_zero]
    rw [hzero, h.value_eq]

/-- Written digits stand for their number. -/
theorem denotes_ofNat (n : Nat) : Denotes (ofNat n) n :=
  denotes_iff.mpr ⟨ofNat_ne_nil n, fun _ => isDigit_of_mem_ofNat, value_ofNat n⟩

end PropertyGraph.Decimal
