import Mathlib.Algebra.Group.Int.Defs
import Mathlib.Logic.Function.Basic
import PropertyGraph.Graph.Identity

/-!
# Identities and their words

An identity is made of two words of 32 bits: the upper one with its sign, and the lower one without.
So its number is the upper word times `2 ^ 32` and the lower word, and nothing of the sign of the
lower word gets into the upper half.  Every identity is made of exactly one pair of words, and
identities are in the order of their upper words first and of their lower words next.

## Main definitions

* `lowWord`, `highWord` — the words of an identity, with sign.
* `LowFits`, `HighFits` — the numbers that may be given for a word.

## Main results

* `toInt_ofWords` — **the number of two words**.
* `bijective_ofWords` — **every identity has exactly one pair of words**.
* `compare_ofWords_eq_lt_iff` — the order of identities in terms of their words.
* `ofWideWords_cases` — what is made of two numbers.
-/

namespace PropertyGraph.Identity

/-! ### Numbers of words -/

/-- A number cut to 32 bits keeps what counts without sign. -/
theorem toInt_ofInt_emod (n : Int) : (Int32.ofInt n).toInt % 2 ^ 32 = n % 2 ^ 32 := by
  rw [Int32.toInt_ofInt]
  exact Int.bmod_emod

/-- **The number of two words**: the lower one counts without its sign. -/
theorem toInt_ofWords (low high : Int32) :
    (ofWords low high).toInt = high.toInt * 2 ^ 32 + low.toInt % 2 ^ 32 := by
  have hlow : (low.toBitVec.toNat : Int) = low.toInt % 2 ^ 32 := by
    have hcond := BitVec.toInt_eq_toNat_cond low.toBitVec
    have hlt := low.toBitVec.isLt
    rw [Int32.toInt_toBitVec] at hcond
    split at hcond <;> omega
  show (high.toBitVec ++ low.toBitVec).toInt = _
  rw [BitVec.toInt_append, if_neg (by decide), hlow, Int32.toInt_toBitVec, Int.mul_comm]

/-- The number of an identity fits 64 bits with sign. -/
theorem toInt_bounds (id : Identity) : -2 ^ 63 ≤ id.toInt ∧ id.toInt < 2 ^ 63 :=
  ⟨Int64.le_toInt id.val, Int64.toInt_lt id.val⟩

/-- The lower word of an identity, with sign. -/
def lowWord (id : Identity) : Int32 :=
  .ofInt id.toInt

/-- The upper word of an identity. -/
def highWord (id : Identity) : Int32 :=
  .ofInt (id.toInt / 2 ^ 32)

theorem toInt_lowWord_emod (id : Identity) : id.lowWord.toInt % 2 ^ 32 = id.toInt % 2 ^ 32 :=
  toInt_ofInt_emod id.toInt

theorem toInt_highWord (id : Identity) : id.highWord.toInt = id.toInt / 2 ^ 32 := by
  obtain ⟨hlow, hhigh⟩ := id.toInt_bounds
  exact Int32.toInt_ofInt_of_le (by omega) (by omega)

/-- The words of an identity make it. -/
theorem ofWords_lowWord_highWord (id : Identity) : ofWords id.lowWord id.highWord = id := by
  apply toInt_inj.mp
  rw [toInt_ofWords, toInt_lowWord_emod, toInt_highWord]
  omega

/-! ### Order -/

/-- **The order of identities** is the one of their upper words, and of their lower words without
sign where the upper ones are the same. -/
theorem compare_ofWords_eq_lt_iff (low high low' high' : Int32) :
    compare (ofWords low high) (ofWords low' high') = .lt ↔
      high.toInt < high'.toInt ∨
        high = high' ∧ low.toInt % 2 ^ 32 < low'.toInt % 2 ^ 32 := by
  show compare (ofWords low high).toInt (ofWords low' high').toInt = .lt ↔ _
  rw [Int.compare_eq_lt, toInt_ofWords, toInt_ofWords, ← Int32.toInt_inj]
  omega

theorem ofWords_inj {low high low' high' : Int32} (h : ofWords low high = ofWords low' high') :
    low = low' ∧ high = high' := by
  have hnumber := congrArg toInt h
  rw [toInt_ofWords, toInt_ofWords] at hnumber
  have hlow := Int32.toInt_lt low
  have hlow' := Int32.toInt_lt low'
  have hmin := Int32.le_toInt low
  have hmin' := Int32.le_toInt low'
  refine ⟨Int32.toInt_inj.mp ?_, Int32.toInt_inj.mp ?_⟩ <;> omega

/-- **Every identity has exactly one pair of words.** -/
theorem bijective_ofWords :
    Function.Bijective fun words : Int32 × Int32 => (ofWords words.1 words.2).val := by
  constructor
  · rintro ⟨low, high⟩ ⟨low', high'⟩ h
    obtain ⟨rfl, rfl⟩ := ofWords_inj (congrArg Identity.mk h)
    rfl
  · intro x
    exact ⟨(lowWord ⟨x⟩, highWord ⟨x⟩), congrArg val (ofWords_lowWord_highWord ⟨x⟩)⟩

/-! ### Words of 64 bits -/

/-- The numbers that may be given for a lower word: those of 32 bits, with or without sign. -/
def LowFits (n : Int) : Prop := -2 ^ 31 ≤ n ∧ n ≤ 2 ^ 32 - 1

/-- The numbers that may be given for an upper word: those of 32 bits with sign. -/
def HighFits (n : Int) : Prop := -2 ^ 31 ≤ n ∧ n ≤ 2 ^ 31 - 1

/-- **What is made of two numbers**: an identity when both fit, and otherwise a fault that names the
lower number, if this one does not fit, or else the upper one. -/
theorem ofWideWords_cases (low high : Int64) :
    (LowFits low.toInt ∧ HighFits high.toInt ∧ ∃ id, ofWideWords low high = .ok id ∧
      id.toInt = high.toInt * 2 ^ 32 + low.toInt % 2 ^ 32) ∨
    (¬LowFits low.toInt ∧ ofWideWords low high = .error (.wordOutOfRange low)) ∨
    (LowFits low.toInt ∧ ¬HighFits high.toInt ∧
      ofWideWords low high = .error (.wordOutOfRange high)) := by
  unfold ofWideWords LowFits HighFits
  by_cases hlow : -0x80000000 ≤ low.toInt ∧ low.toInt < 0x100000000
  · rw [if_neg (not_not_intro hlow)]
    by_cases hhigh : -0x80000000 ≤ high.toInt ∧ high.toInt < 0x80000000
    · rw [if_neg (not_not_intro hhigh)]
      refine .inl ⟨by omega, by omega, _, rfl, ?_⟩
      have hexact : (Int32.ofInt high.toInt).toInt = high.toInt :=
        Int32.toInt_ofInt_of_le (by omega) (by omega)
      rw [toInt_ofWords, toInt_ofInt_emod, hexact]
    · rw [if_pos hhigh]
      exact .inr (.inr ⟨by omega, by omega, rfl⟩)
  · rw [if_pos hlow]
    exact .inr (.inl ⟨by omega, rfl⟩)

end PropertyGraph.Identity
