import PropertyGraph.Json.Writer

/-!
# The characters of a written number

A number is written with decimal digits, signs, a point and the letter `e`, or as `null` when it is
not finite.  So no number brings a quote, a brace or a blank into a text.

## Main definitions

* `Decimal.isIntegerChar` — the characters of a written integer.
* `Decimal.isNumberChar` — the characters of a written number.

## Main results

* `Number.isNumberChar_of_mem_chars` — a finite number is made of them.
-/

namespace PropertyGraph

namespace Decimal

/-- Whether a character may stand in a written integer. -/
def isIntegerChar (c : Char) : Bool :=
  c.isDigit || c == '-'

theorem isIntegerChar_of_mem_ofInt {n : Int} {c : Char} (h : c ∈ ofInt n) :
    isIntegerChar c = true := by
  have hdigit : ∀ {m : Nat}, c ∈ ofNat m → isIntegerChar c = true := by
    intro m hm
    simp [isIntegerChar, isDigit_of_mem_ofNat hm]
  cases n with
  | ofNat n => exact hdigit h
  | negSucc n =>
    rcases List.mem_cons.mp h with rfl | h
    · rfl
    · exact hdigit h

/-- Whether a character may stand in a written number that is finite. -/
def isNumberChar (c : Char) : Bool :=
  c.isDigit || c == '-' || c == '+' || c == '.' || c == 'e'

theorem isNumberChar_of_isDigit {c : Char} (h : c.isDigit = true) : isNumberChar c = true := by
  simp [isNumberChar, h]

theorem isNumberChar_of_mem_ofInt {n : Int} {c : Char} (h : c ∈ ofInt n) :
    isNumberChar c = true := by
  have hint := isIntegerChar_of_mem_ofInt h
  unfold isIntegerChar at hint
  unfold isNumberChar
  rw [hint]
  rfl

end Decimal

namespace Double

open Decimal

/-- The digits of a grid point are decimal digits. -/
theorem GridPoint.isDigit_of_mem_digits {p : GridPoint} {c : Char} (h : c ∈ p.digits.digits) :
    c.isDigit = true := by
  have h₁ : c ∈ ((Decimal.ofNat p.count).reverse.dropWhile (· == '0')).reverse := h
  have h₂ : c ∈ (Decimal.ofNat p.count).reverse :=
    (List.dropWhile_sublist _).mem (List.mem_reverse.mp h₁)
  exact isDigit_of_mem_ofNat (List.mem_reverse.mp h₂)

/-- The shortest digits of a double are decimal digits. -/
theorem isDigit_of_mem_shortest {d : Double} {c : Char} (h : c ∈ d.shortest.digits) :
    c.isDigit = true := by
  unfold shortest at h
  split at h
  · rw [List.mem_singleton] at h
    subst h
    rfl
  · split at h
    · exact GridPoint.isDigit_of_mem_digits h
    · rw [List.mem_singleton] at h
      subst h
      rfl

/-- Plain notation adds zeros and a point. -/
theorem isNumberChar_of_mem_plain {d : Digits} (hd : ∀ c ∈ d.digits, c.isDigit = true) {c : Char}
    (h : c ∈ plain d) : isNumberChar c = true := by
  have hzero : ∀ n, c ∈ List.replicate n '0' → isNumberChar c = true := by
    intro n hn
    rw [List.eq_of_mem_replicate hn]
    rfl
  have hdigit : c ∈ d.digits → isNumberChar c = true := fun hc => isNumberChar_of_isDigit (hd c hc)
  unfold plain at h
  split at h
  · next k _ =>
    simp only [List.mem_append, List.mem_cons] at h
    rcases h with (h | h) | rfl | h
    · exact hdigit (List.mem_of_mem_take h)
    · exact hzero _ h
    · rfl
    · split at h
      · rw [List.mem_singleton.mp h]
        rfl
      · exact hdigit (List.mem_of_mem_drop h)
  · simp only [List.mem_append, List.mem_cons] at h
    rcases h with (rfl | rfl | h) | h
    · rfl
    · rfl
    · exact hzero _ h
    · exact hdigit h

/-- Scientific notation adds a point, the letter `e` and an exponent with its sign. -/
theorem isNumberChar_of_mem_scientific {d : Digits} (hd : ∀ c ∈ d.digits, c.isDigit = true)
    {c : Char} (h : c ∈ scientific d) : isNumberChar c = true := by
  unfold scientific at h
  simp only [List.mem_append, List.mem_cons] at h
  rcases h with h | rfl | h
  · split at h
    · next first second rest heq =>
      rw [heq] at hd
      simp only [List.mem_cons] at h hd
      rcases h with rfl | rfl | h
      · exact isNumberChar_of_isDigit (hd _ (Or.inl rfl))
      · rfl
      · exact isNumberChar_of_isDigit (hd _ (Or.inr h))
    · exact isNumberChar_of_isDigit (hd _ h)
  · rfl
  · split at h
    · exact isNumberChar_of_mem_ofInt h
    · rcases List.mem_cons.mp h with rfl | h
      · rfl
      · exact isNumberChar_of_mem_ofInt h

theorem isNumberChar_of_mem_written {d : Double} {c : Char} (h : c ∈ d.written) :
    isNumberChar c = true := by
  have hd : ∀ c ∈ d.shortest.digits, c.isDigit = true := fun _ hc => isDigit_of_mem_shortest hc
  have hbody : c ∈ (if textLayout.least ≤ d.shortest.leading &&
      d.shortest.leading ≤ textLayout.greatest then plain d.shortest else scientific d.shortest) →
      isNumberChar c = true := by
    intro hc
    split at hc
    · exact isNumberChar_of_mem_plain hd hc
    · exact isNumberChar_of_mem_scientific hd hc
  unfold written at h
  simp only at h
  split at h
  · rcases List.mem_cons.mp h with rfl | h
    · rfl
    · exact hbody h
  · exact hbody h

end Double

/-- **A number brings only its own characters into a text**: those of a finite number, or the
letters of `null`. -/
theorem Number.isNumberChar_of_mem_chars {n : Number} {c : Char} (h : c ∈ n.chars) :
    Decimal.isNumberChar c = true ∨ c ∈ ['n', 'u', 'l', 'l'] := by
  cases n with
  | int n => exact Or.inl (Decimal.isNumberChar_of_mem_ofInt h)
  | double d =>
    unfold Number.chars at h
    simp only at h
    split at h
    · exact Or.inl (Double.isNumberChar_of_mem_written h)
    · exact Or.inr h

end PropertyGraph
