import PropertyGraph.Json.Basic
import PropertyGraph.Decimal.Reading

/-!
# Numerals

A number in a JSON text: a sign, digits without a leading zero, a fraction and an exponent.  Its
value is an integer when it has neither fraction nor exponent and fits 64 bits, and a double
otherwise.

## Main definitions

* `Numeral` — the parts of a number as they stand in the text.
* `Numeral.read` — the numeral at the front of a text.
* `Numeral.value?` — its value; none when it is too large for a double.
-/

namespace PropertyGraph

/-- The parts of a number as they stand in a text. -/
structure Numeral where
  /-- Whether a minus sign stands in front. -/
  negative : Bool
  /-- The digits before the point. -/
  whole : List Char
  /-- The digits after the point; empty when there is no point. -/
  fraction : List Char
  /-- The exponent, when there is one. -/
  exponent : Option Int
  deriving DecidableEq, Repr

namespace Numeral

/-- The digits at the front of a text, and what follows them. -/
def spanDigits (cs : List Char) : List Char × List Char :=
  (cs.takeWhile Char.isDigit, cs.dropWhile Char.isDigit)

/-- A fraction at the front of a text: a point and at least one digit, or nothing. -/
def readFraction : List Char → Option (List Char × List Char)
  | '.' :: rest =>
    match spanDigits rest with
    | ([], _) => none
    | (digits, rest) => some (digits, rest)
  | cs => some ([], cs)

/-- The digits of an exponent at the front of a text, of which there is at least one. -/
def readExponentDigits (negative : Bool) (cs : List Char) : Option (Option Int × List Char) :=
  match spanDigits cs with
  | ([], _) => none
  | (digits, rest) =>
    let e : Int := Decimal.value digits
    some (some (if negative then -e else e), rest)

/-- An exponent at the front of a text: a letter `e` of either case, a sign or none, and at least
one digit; or nothing. -/
def readExponent : List Char → Option (Option Int × List Char)
  | 'e' :: '-' :: rest => readExponentDigits true rest
  | 'E' :: '-' :: rest => readExponentDigits true rest
  | 'e' :: '+' :: rest => readExponentDigits false rest
  | 'E' :: '+' :: rest => readExponentDigits false rest
  | 'e' :: rest => readExponentDigits false rest
  | 'E' :: rest => readExponentDigits false rest
  | cs => some (none, cs)

/-- The part of a numeral after its sign. -/
def readUnsigned (negative : Bool) (cs : List Char) : Option (Numeral × List Char) :=
  match spanDigits cs with
  | ([], _) => none
  | ('0' :: _ :: _, _) => none
  | (whole, rest) => do
    let (fraction, rest) ← readFraction rest
    let (exponent, rest) ← readExponent rest
    some (⟨negative, whole, fraction, exponent⟩, rest)

/-- The numeral at the front of a text, and what follows it. -/
def read : List Char → Option (Numeral × List Char)
  | '-' :: rest => readUnsigned true rest
  | cs => readUnsigned false cs

/-- The magnitude as a double: the digits that fit 64 bits, scaled by the power of ten that the
point, the digits left out and the exponent make together. -/
def double? (x : Numeral) : Option Double :=
  let (significand, dropped) := Double.absorb 0 x.whole
  let (significand, left) := Double.absorb significand x.fraction
  let places : Int := dropped.length - (x.fraction.length - left.length : Nat)
  ((Double.ofNat significand).scaled? (places + x.exponent.getD 0)).map fun d =>
    if x.negative then d.negate else d

/-- The value of a numeral.  Without fraction and exponent it is an integer from `-2 ^ 63` to
`2 ^ 64 - 1`, except that minus zero and what lies outside are doubles. -/
def value? (x : Numeral) : Option Number :=
  let n := Decimal.value x.whole
  if x.fraction = [] ∧ x.exponent = none ∧ n < 0x10000000000000000 then
    if x.negative then
      if 0 < n ∧ n ≤ 0x8000000000000000 then some (.int (-n))
      else some (.double (Double.ofNat n).negate)
    else some (.int n)
  else x.double?.map .double

end Numeral

end PropertyGraph
