/-!
# Doubles

A floating-point number of 64 bits, kept as its bits.  A finite magnitude is a whole number of
*steps*, where a step is the least positive double, `2 ^ -1074`; so every operation here is exact
arithmetic on natural numbers followed by one rounding to the nearest double, ties to even.

## Main definitions

* `Double` — the bits: a sign, 11 bits of exponent and 52 bits of fraction.
* `Double.steps` — the magnitude, counted in steps.
* `Double.ofRatio` — the double nearest to a quotient.
* `Double.times`, `Double.dividedBy`, `Double.ofNat`, `Double.ofInt`, `Double.negate` — the
  operations that reading a decimal number needs.
-/

namespace PropertyGraph

/-- A floating-point number of 64 bits: the top bit is the sign, the next 11 are the exponent field
and the other 52 the fraction field. -/
structure Double where
  /-- The 64 bits as a number. -/
  bits : UInt64
  deriving DecidableEq, Repr, Inhabited

namespace Double

/-- The number of values of the fraction field, `2 ^ 52`. -/
def fractionSize : Nat := 0x10000000000000

/-- The value of the sign bit, `2 ^ 63`. -/
def signSize : Nat := 0x8000000000000000

/-- The number of magnitudes below infinity; it is also the bit pattern of infinity. -/
def infinityBits : Nat := 2047 * fractionSize

/-- The number of steps in one, `2 ^ 1074`. -/
def stepsPerUnit : Nat := 1 <<< 1074

/-- The bits without the sign.  Larger magnitudes have larger values. -/
def magnitude (d : Double) : Nat :=
  d.bits.toNat % signSize

/-- Whether the sign bit is set.  Zero has both signs. -/
def isNegative (d : Double) : Bool :=
  signSize ≤ d.bits.toNat

/-- Whether the value is a real number, rather than an infinity or no number at all. -/
def isFinite (d : Double) : Bool :=
  d.magnitude < infinityBits

/-- Whether the value is zero, of either sign. -/
def isZero (d : Double) : Bool :=
  d.magnitude == 0

/-- The double with a given sign and magnitude bits. -/
def ofMagnitude (negative : Bool) (magnitude : Nat) : Double :=
  ⟨.ofNat (if negative then signSize + magnitude else magnitude)⟩

/-- Positive zero. -/
def zero : Double := ofMagnitude false 0

/-- Infinity with a given sign. -/
def infinity (negative : Bool) : Double := ofMagnitude negative infinityBits

/-- The value that is not a number. -/
def notANumber : Double := ofMagnitude false (infinityBits + fractionSize / 2)

/-- The double with the other sign. -/
def negate (d : Double) : Double :=
  ofMagnitude (!d.isNegative) d.magnitude

/-- The number of steps that a bit pattern without sign stands for.  The fraction field of a normal
number has a leading one in front, and each exponent after the first doubles the unit. -/
def stepsOf (magnitude : Nat) : Nat :=
  let exponent := magnitude / fractionSize
  let fraction := magnitude % fractionSize
  if exponent = 0 then fraction else (fractionSize + fraction) <<< (exponent - 1)

/-- The magnitude of a double, counted in steps. -/
def steps (d : Double) : Nat :=
  stepsOf d.magnitude

/-- The natural number nearest to a quotient; of two equally near ones, the even one. -/
def nearest (num den : Nat) : Nat :=
  let q := num / den
  let r := num % den
  if den < 2 * r then q + 1
  else if 2 * r = den then q + q % 2
  else q

/-- The magnitude bits of the double nearest to `num / den`, with ties to even.  The quotient in
steps is rounded to 53 bits; the rounded significand and the exponent add up to the bit pattern,
also where the rounding carries into the next exponent. -/
def roundedBits (num den : Nat) : Nat :=
  let scaled := num * stepsPerUnit
  let whole := scaled / den
  let excess := if whole < 2 * fractionSize then 0 else whole.log2 - 52
  min infinityBits (excess * fractionSize + nearest scaled (den <<< excess))

/-- The double nearest to `num / den` with a given sign; infinity when that is too large. -/
def ofRatio (negative : Bool) (num den : Nat) : Double :=
  ofMagnitude negative (roundedBits num den)

/-- The double nearest to a natural number. -/
def ofNat (n : Nat) : Double :=
  ofRatio false n 1

/-- The double nearest to an integer. -/
def ofInt (n : Int) : Double :=
  ofRatio (n < 0) n.natAbs 1

/-- The product of two finite magnitudes, rounded once. -/
def times (a b : Double) : Double :=
  ofRatio (a.isNegative != b.isNegative) (a.steps * b.steps) (stepsPerUnit * stepsPerUnit)

/-- The quotient of two finite magnitudes, rounded once. -/
def dividedBy (a b : Double) : Double :=
  ofRatio (a.isNegative != b.isNegative) a.steps b.steps

/-- The double nearest to a power of ten. -/
def powerOfTen (n : Nat) : Double :=
  ofNat (Nat.pow 10 n)

end Double

end PropertyGraph
