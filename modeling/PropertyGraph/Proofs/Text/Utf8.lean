import Mathlib.Algebra.Group.Nat.Defs
import Mathlib.Tactic.SplitIfs

/-!
# The order of texts as bytes

A character in UTF-8 is one byte or a first byte with up to three that continue it, each with six
bits of the character.  The first byte grows with the number of bytes, and within one number of
bytes the bits are in their usual order, so texts as bytes are in the order of their characters.

## Main definitions

* `utf8` — the bytes of a text.
* `following`, `continuation`, `lead` — the parts of a character.

## Main results

* `utf8EncodeChar_eq` — the bytes of a character are its first byte and those that continue it.
* `continuation_append_lt` — continuing bytes are in the order of the bits that they hold.
* `utf8_lt_utf8_iff` — **the bytes of texts are in the order of the texts.**
-/

namespace PropertyGraph.Text

/-- The bytes of a text in UTF-8. -/
def utf8 (s : String) : List UInt8 :=
  s.toUTF8.data.toList

theorem utf8_eq (s : String) : utf8 s = s.toList.flatMap String.utf8EncodeChar := by
  unfold utf8 String.toUTF8
  rw [← String.utf8Encode_toList, List.utf8Encode, List.data_toByteArray]

/-! ### The parts of a character -/

/-- How many bytes follow the first one of a code point. -/
def following (n : Nat) : Nat :=
  if n ≤ 0x7F then 0 else if n ≤ 0x7FF then 1 else if n ≤ 0xFFFF then 2 else 3

/-- The mark in a first byte that so many bytes follow. -/
def mark : Nat → Nat
  | 0 => 0
  | 1 => 0xC0
  | 2 => 0xE0
  | _ => 0xF0

/-- The first byte of a code point: its highest bits and the mark. -/
def lead (n : Nat) : Nat :=
  n / 64 ^ following n + mark (following n)

/-- The bytes that continue a code point, with the lowest bits in the last one. -/
def continuation : Nat → Nat → List UInt8
  | 0, _ => []
  | k + 1, n => .ofNat (n / 64 ^ k % 64 + 0x80) :: continuation k n

theorem toNat_le (c : Char) : c.toNat ≤ 0x10FFFF := by
  have hvalid : c.toNat < 0xD800 ∨ 0xDFFF < c.toNat ∧ c.toNat < 0x110000 := c.valid
  omega

/-- **The bytes of a character** are its first byte and those that continue it. -/
theorem utf8EncodeChar_eq (c : Char) :
    String.utf8EncodeChar c
      = .ofNat (lead c.toNat) :: continuation (following c.toNat) c.toNat := by
  have hmax := toNat_le c
  have hval : c.val.toNat = c.toNat := rfl
  unfold String.utf8EncodeChar lead following
  simp only [hval]
  split
  · simp [continuation, mark]
  · split
    · have hbits : c.toNat / 64 % 32 = c.toNat / 64 := by omega
      simp [continuation, mark, hbits]
    · split
      · have hbits : c.toNat / 4096 % 16 = c.toNat / 4096 := by omega
        simp [continuation, mark, hbits]
      · have hbits : c.toNat / 262144 % 8 = c.toNat / 262144 := by omega
        simp [continuation, mark, hbits]

/-- How many bytes follow tells how large a code point is. -/
theorem following_cases (n : Nat) :
    following n = 0 ∧ n ≤ 0x7F ∨ following n = 1 ∧ 0x7F < n ∧ n ≤ 0x7FF ∨
      following n = 2 ∧ 0x7FF < n ∧ n ≤ 0xFFFF ∨ following n = 3 ∧ 0xFFFF < n := by
  unfold following
  split_ifs <;> omega

theorem following_mono {m n : Nat} (h : m ≤ n) : following m ≤ following n := by
  have hm := following_cases m
  have hn := following_cases n
  omega

theorem mark_mono {k l : Nat} (h : k ≤ l) (hl : l ≤ 3) : mark k ≤ mark l := by
  have key : ∀ l < 4, ∀ k < 4, k ≤ l → mark k ≤ mark l := by decide
  exact key l (by omega) k (by omega) h

/-- A first byte is below the mark for one byte more. -/
theorem lead_lt_mark {n : Nat} (h : following n < 3) : lead n < mark (following n + 1) := by
  unfold lead
  rcases following_cases n with ⟨hk, hn⟩ | ⟨hk, -, hn⟩ | ⟨hk, -, hn⟩ | ⟨hk, -⟩
  · simp only [hk, mark, Nat.pow_zero]
    omega
  · simp only [hk, mark, Nat.pow_one]
    omega
  · simp only [hk, mark, Nat.reducePow]
    omega
  · omega

theorem lead_lt {n : Nat} (h : n ≤ 0x10FFFF) : lead n < 256 := by
  by_cases hk : following n < 3
  · calc lead n < mark (following n + 1) := lead_lt_mark hk
      _ ≤ mark 3 := mark_mono hk (Nat.le_refl 3)
      _ ≤ 256 := by decide
  · -- the largest code points take four bytes, and the bound on them is needed
    have hthree : following n = 3 := by
      have hcases := following_cases n
      omega
    simp only [lead, hthree, mark, Nat.reducePow]
    omega

/-! ### The order of bytes -/

variable {m n k : Nat} {r s : List UInt8}

theorem ofNat_cons_lt (hn : n < 256) (h : m < n) : UInt8.ofNat m :: r < UInt8.ofNat n :: s :=
  List.cons_lt_cons_iff.mpr (.inl ((UInt8.ofNat_lt_iff_lt (Nat.lt_trans h hn) hn).mpr h))

/-- Continuing bytes are in the order of the bits that they hold, whatever follows them. -/
theorem continuation_append_lt (h : m % 64 ^ k < n % 64 ^ k) :
    continuation k m ++ r < continuation k n ++ s := by
  induction k with
  | zero => simp [Nat.mod_one] at h
  | succ k ih =>
    rw [continuation, continuation, List.cons_append, List.cons_append]
    rw [Nat.pow_succ, Nat.mod_mul, Nat.mod_mul] at h
    rcases Nat.lt_trichotomy (m / 64 ^ k % 64) (n / 64 ^ k % 64) with hlt | heq | hgt
    · exact ofNat_cons_lt (by omega) (by omega)
    · rw [heq] at h ⊢
      exact List.cons_lt_cons_iff.mpr (.inr ⟨rfl, ih (by omega)⟩)
    · -- a larger digit outweighs all that are behind it
      have hm : m % 64 ^ k < 64 ^ k := Nat.mod_lt _ (Nat.pow_pos (by decide))
      have hn : n % 64 ^ k < 64 ^ k := Nat.mod_lt _ (Nat.pow_pos (by decide))
      have hstep := Nat.mul_le_mul_left (64 ^ k) hgt
      rw [Nat.succ_eq_add_one, Nat.mul_add] at hstep
      omega

/-- First bytes are in the order of the code points, and equal ones leave the same number of bits to
the bytes that follow. -/
theorem lead_lt_or (h : m < n) :
    lead m < lead n ∨
      lead m = lead n ∧ following m = following n ∧
        m % 64 ^ following n < n % 64 ^ following n := by
  rcases Nat.lt_or_eq_of_le (following_mono (Nat.le_of_lt h)) with hlt | heq
  · left
    have hcases := following_cases n
    calc lead m < mark (following m + 1) := lead_lt_mark (by omega)
      _ ≤ mark (following n) := mark_mono hlt (by omega)
      _ ≤ lead n := Nat.le_add_left ..
  · unfold lead
    rw [heq]
    have hle : m / 64 ^ following n ≤ n / 64 ^ following n := Nat.div_le_div_right (Nat.le_of_lt h)
    rcases Nat.lt_or_eq_of_le hle with hbits | hbits
    · exact .inl (Nat.add_lt_add_right hbits _)
    · have hm := Nat.div_add_mod m (64 ^ following n)
      have hn := Nat.div_add_mod n (64 ^ following n)
      rw [hbits] at hm ⊢
      exact .inr ⟨rfl, rfl, by omega⟩

/-- **The bytes of a smaller character come first**, whatever follows. -/
theorem utf8EncodeChar_append_lt {c d : Char} (h : c < d) :
    String.utf8EncodeChar c ++ r < String.utf8EncodeChar d ++ s := by
  have hcode : c.toNat < d.toNat := h
  rw [utf8EncodeChar_eq, utf8EncodeChar_eq, List.cons_append, List.cons_append]
  rcases lead_lt_or hcode with hlead | ⟨hlead, hfollowing, hbits⟩
  · exact ofNat_cons_lt (lead_lt (toNat_le d)) hlead
  · rw [hlead, hfollowing]
    exact List.cons_lt_cons_iff.mpr (.inr ⟨rfl, continuation_append_lt hbits⟩)

/-! ### The order of texts -/

theorem flatMap_utf8EncodeChar_lt {cs ds : List Char} (h : cs < ds) :
    cs.flatMap String.utf8EncodeChar < ds.flatMap String.utf8EncodeChar := by
  induction cs generalizing ds with
  | nil =>
    cases ds with
    | nil => exact absurd h (List.lt_irrefl [])
    | cons d ds =>
      rw [List.flatMap_nil, List.flatMap_cons, utf8EncodeChar_eq]
      exact List.nil_lt_cons ..
  | cons c cs ih =>
    cases ds with
    | nil => exact absurd h (List.not_lt_nil _)
    | cons d ds =>
      rw [List.flatMap_cons, List.flatMap_cons]
      rcases List.cons_lt_cons_iff.mp h with hlt | ⟨rfl, htail⟩
      · exact utf8EncodeChar_append_lt hlt
      · exact List.append_left_lt (ih htail)

/-- **The bytes of texts are in the order of the texts.** -/
theorem utf8_lt_utf8_iff {s t : String} : utf8 s < utf8 t ↔ s < t := by
  have hmono : ∀ {a b : String}, a < b → utf8 a < utf8 b := by
    intro a b h
    rw [utf8_eq, utf8_eq]
    exact flatMap_utf8EncodeChar_lt h
  refine ⟨fun h => ?_, hmono⟩
  by_cases hlt : s < t
  · exact hlt
  · -- otherwise the texts are the same, or in the opposite order
    by_cases hgt : t < s
    · exact absurd (hmono hgt) (List.lt_asymm h)
    · obtain rfl : s = t := String.le_antisymm (String.not_lt.mp hgt) (String.not_lt.mp hlt)
      exact absurd h (List.lt_irrefl _)

end PropertyGraph.Text
