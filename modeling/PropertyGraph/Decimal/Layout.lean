import PropertyGraph.Decimal.Shortest

/-!
# The text of a double

A double is written with its shortest digits.  Between `10 ^ -5` and `10 ^ 16` they stand in plain
notation and always with a fraction; outside, in scientific notation, where the exponent always has
a sign and a single digit has no fraction.

## Main definitions

* `Double.Layout` — where plain notation begins and ends.
* `Double.written` — the text of a finite double.
-/

namespace PropertyGraph.Double

/-- The powers of ten of the first digit for which a number stands in plain notation. -/
structure Layout where
  /-- The least power of ten of a plain number. -/
  least : Int
  /-- The greatest power of ten of a plain number. -/
  greatest : Int

/-- Numbers are plain from `0.00001` up to sixteen digits before the point. -/
def textLayout : Layout := ⟨-5, 15⟩

/-- Digits in plain notation: a point after the unit digit, and a digit on each side of it. -/
def plain (d : Digits) : List Char :=
  match d.leading with
  | .ofNat k =>
    let whole := d.digits.take (k + 1)
    let fraction := d.digits.drop (k + 1)
    whole ++ List.replicate (k + 1 - whole.length) '0' ++ '.' ::
      (if fraction.isEmpty then ['0'] else fraction)
  | .negSucc k => '0' :: '.' :: List.replicate k '0' ++ d.digits

/-- Digits in scientific notation: one digit before the point, no point after a single digit, and a
sign on the exponent. -/
def scientific (d : Digits) : List Char :=
  let mantissa :=
    match d.digits with
    | first :: second :: rest => first :: '.' :: second :: rest
    | digits => digits
  let exponent := Decimal.ofInt d.leading
  mantissa ++ 'e' :: (if d.leading < 0 then exponent else '+' :: exponent)

/-- The text of a finite double, with a minus sign when the sign bit is set, also for zero. -/
def written (d : Double) : List Char :=
  let digits := d.shortest
  let body :=
    if textLayout.least ≤ digits.leading && digits.leading ≤ textLayout.greatest then
      plain digits
    else scientific digits
  if d.isNegative then '-' :: body else body

end PropertyGraph.Double
