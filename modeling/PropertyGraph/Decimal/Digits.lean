/-!
# Integers in decimal digits

The text of an integer, and the value of a run of digits.  Both are the core library's functions on
lists of characters, so that its lemmas tie the two together.

## Main definitions

* `ofNat`, `ofInt` — the digits of a number, with a minus sign in front of a negative one.
* `value` — the number that a run of digits stands for.
-/

namespace PropertyGraph.Decimal

/-- The decimal digits of a natural number, without leading zeros. -/
def ofNat (n : Nat) : List Char :=
  Nat.toDigits 10 n

/-- The decimal digits of an integer, after a minus sign when it is negative. -/
def ofInt : Int → List Char
  | .ofNat n => ofNat n
  | .negSucc n => '-' :: ofNat (n + 1)

/-- The number that a run of decimal digits stands for.  The empty run stands for zero. -/
def value (digits : List Char) : Nat :=
  Nat.ofDigitChars 10 digits 0

/-- The text of an integer. -/
def text (n : Int) : String :=
  .ofList (ofInt n)

@[simp] theorem value_ofNat (n : Nat) : value (ofNat n) = n :=
  Nat.ofDigitChars_ten_toDigits

theorem isDigit_of_mem_ofNat {n : Nat} {c : Char} (h : c ∈ ofNat n) : c.isDigit = true :=
  Nat.isDigit_of_mem_toDigits (by decide) (by decide) h

theorem ofNat_ne_nil (n : Nat) : ofNat n ≠ [] :=
  Nat.toDigits_ne_nil

@[simp] theorem toList_text (n : Int) : (text n).toList = ofInt n := by
  simp [text]

end PropertyGraph.Decimal
