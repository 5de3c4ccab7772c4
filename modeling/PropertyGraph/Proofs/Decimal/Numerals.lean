import Mathlib.Data.List.Basic
import PropertyGraph.Json.Numeral
import PropertyGraph.Proofs.Text.Readable

/-!
# Written integers are read back

An integer is written without leading zeros, so that all its digits belong to one numeral, and
reading stops behind them when nothing follows that would continue a numeral.  The value of the
numeral is the integer itself as long as it fits 64 bits, with or without sign.

## Main definitions

* `Numeral.continues` — the characters that continue a numeral behind its digits.
* `Numeral.ofInt` — the numeral that an integer is written as.

## Main results

* `Decimal.head?_ofNat` — no leading zeros.
* `Numeral.read_ofInt` — **a written integer is read as one numeral**.
* `Numeral.value?_ofInt` — its value is the integer.
-/

namespace PropertyGraph

open Text

/-- A number other than zero is written without a leading zero. -/
theorem Decimal.head?_ofNat {n : Nat} (h : 0 < n) : (ofNat n).head? ≠ some '0' := by
  induction n using Nat.strongRecOn with
  | ind n ih =>
    unfold ofNat
    rcases Nat.lt_or_ge n 10 with hlt | hge
    · have hdigits : ∀ m < 10, 0 < m → [Nat.digitChar m].head? ≠ some '0' := by decide
      rw [Nat.toDigits_of_lt_base hlt]
      exact hdigits n hlt h
    · -- the first digit is the one of the number without its last digit
      rw [Nat.toDigits_of_base_le (by decide) hge,
        List.head?_append_of_ne_nil _ Nat.toDigits_ne_nil]
      exact ih (n / 10) (by omega) (by omega)

namespace Numeral

/-- Whether a character behind the digits of an integer continues a numeral. -/
def continues (c : Char) : Bool :=
  c.isDigit || c == '.' || c == 'e' || c == 'E'

/-- The numeral that an integer is written as. -/
def ofInt (n : Int) : Numeral :=
  ⟨n < 0, Decimal.ofNat n.natAbs, [], none⟩

variable {rest : List Char}

theorem spanDigits_ofNat (n : Nat) (h : Stops continues rest) :
    spanDigits (Decimal.ofNat n ++ rest) = (Decimal.ofNat n, rest) := by
  have hdigits : ∀ c ∈ Decimal.ofNat n, c.isDigit = true := fun _ => Decimal.isDigit_of_mem_ofNat
  have htake : rest.takeWhile Char.isDigit = [] ∧ rest.dropWhile Char.isDigit = rest := by
    cases rest with
    | nil => exact ⟨rfl, rfl⟩
    | cons c cs =>
      have hc : c.isDigit = false := by
        have hcontinues := h c rfl
        simp only [continues, Bool.or_eq_false_iff] at hcontinues
        exact hcontinues.1.1.1
      simp [hc]
  unfold spanDigits
  rw [List.takeWhile_append_of_pos hdigits, List.dropWhile_append_of_pos hdigits, htake.1, htake.2,
    List.append_nil]

theorem readFraction_of_stops (h : Stops continues rest) : readFraction rest = some ([], rest) := by
  unfold readFraction
  split
  · exact absurd (h '.' rfl) (by decide)
  · rfl

theorem readExponent_of_stops (h : Stops continues rest) :
    readExponent rest = some (none, rest) := by
  unfold readExponent
  split
  all_goals first | rfl | exact absurd (h _ rfl) (by decide)

/-- The digits of a number are read up to their end. -/
theorem readUnsigned_ofNat (negative : Bool) (n : Nat) (h : Stops continues rest) :
    readUnsigned negative (Decimal.ofNat n ++ rest)
      = some (⟨negative, Decimal.ofNat n, [], none⟩, rest) := by
  unfold readUnsigned
  rw [spanDigits_ofNat n h]
  split
  · next hnil => exact absurd (congrArg Prod.fst hnil) (Decimal.ofNat_ne_nil n)
  · next c cs rest' hzero =>
    -- only the number zero begins with the digit zero, and it has no other digits
    replace hzero : Decimal.ofNat n = '0' :: c :: cs := congrArg Prod.fst hzero
    rcases Nat.eq_zero_or_pos n with rfl | hpos
    · simp [Decimal.ofNat] at hzero
    · exact absurd (by rw [hzero]; rfl) (Decimal.head?_ofNat hpos)
  · next hwhole =>
    cases hwhole
    rw [readFraction_of_stops h]
    show (readExponent rest).bind _ = _
    rw [readExponent_of_stops h]
    rfl

theorem ofInt_ofNat (n : Nat) : ofInt (n : Int) = ⟨false, Decimal.ofNat n, [], none⟩ := by
  have hsign : ¬((n : Int) < 0) := Int.not_lt.mpr (Int.natCast_nonneg n)
  simp [ofInt, hsign]

theorem ofInt_negSucc (n : Nat) :
    ofInt (.negSucc n) = ⟨true, Decimal.ofNat (n + 1), [], none⟩ := by
  simp [ofInt, Int.negSucc_lt_zero]

/-- **A written integer is read as one numeral**, and reading stops behind it. -/
theorem read_ofInt (n : Int) (h : Stops continues rest) :
    read (Decimal.ofInt n ++ rest) = some (ofInt n, rest) := by
  cases n with
  | negSucc n =>
    rw [ofInt_negSucc]
    exact readUnsigned_ofNat true (n + 1) h
  | ofNat n =>
    show read (Decimal.ofNat n ++ rest) = some (ofInt (n : Int), rest)
    rw [ofInt_ofNat]
    obtain ⟨c, cs, hcs⟩ := List.exists_cons_of_ne_nil (Decimal.ofNat_ne_nil n)
    have hdigit : c.isDigit = true := by
      refine Decimal.isDigit_of_mem_ofNat (n := n) ?_
      rw [hcs]
      exact List.mem_cons_self ..
    have hread : read (Decimal.ofNat n ++ rest) = readUnsigned false (Decimal.ofNat n ++ rest) := by
      rw [hcs, List.cons_append]
      unfold read
      split
      · -- no digit is a minus sign
        next hminus =>
        obtain ⟨rfl, -⟩ := List.cons.inj hminus
        exact absurd hdigit (by decide)
      · rfl
    rw [hread, readUnsigned_ofNat false n h]

/-- **The value of a written integer is the integer**, when it fits 64 bits. -/
theorem value?_ofInt {n : Int} (hlow : -0x8000000000000000 ≤ n) (hhigh : n < 0x10000000000000000) :
    (ofInt n).value? = some (.int n) := by
  cases n with
  | ofNat n =>
    have hfits : n < 0x10000000000000000 := Int.ofNat_lt.mp hhigh
    show (ofInt (n : Int)).value? = _
    rw [ofInt_ofNat]
    simp [value?, hfits]
  | negSucc n =>
    -- a minus sign makes an integer only in front of what fits 63 bits
    have hfits : n + 1 ≤ 0x8000000000000000 := by omega
    have hunsigned : n + 1 < 0x10000000000000000 := by omega
    rw [ofInt_negSucc, Int.negSucc_eq]
    simp [value?, hfits, hunsigned]

end Numeral

end PropertyGraph
