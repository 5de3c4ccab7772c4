import PropertyGraph.Decimal.Double
import PropertyGraph.Decimal.Digits

/-!
# Reading doubles

Two ways to read a decimal number as a double.  `ofDecimal?` takes the double nearest to the number.
`scaled?` is the quick way of a reader that keeps the digits that fit 64 bits and then multiplies or
divides by powers of ten, rounding each time; its last digit may differ from the nearest one.

## Main definitions

* `Double.ofDecimal?` — the nearest double of a text, or one of its names for the other values.
* `Double.absorb` — the digits that fit 64 bits.
* `Double.scaled?` — a number times a power of ten, in rounded steps.
-/

namespace PropertyGraph.Double

/-! ### The nearest double -/

/-- The double nearest to `mantissa * 10 ^ exponent` with a given sign.  Exponents beyond the range
of a double are cut off, as they cannot change the result. -/
def ofScientific (negative : Bool) (mantissa : Nat) (exponent : Int) : Double :=
  if mantissa = 0 then ofMagnitude negative 0
  else
    match exponent with
    | .ofNat e => if 400 < e then infinity negative else ofRatio negative (mantissa * Nat.pow 10 e) 1
    | .negSucc e =>
      if (Decimal.ofNat mantissa).length + 400 < e then ofMagnitude negative 0
      else ofRatio negative mantissa (Nat.pow 10 (e + 1))

/-- A sign in front of a list of characters, and the rest; no sign is a plus. -/
def signed : List Char → Bool × List Char
  | '-' :: rest => (true, rest)
  | '+' :: rest => (false, rest)
  | cs => (false, cs)

/-- The exponent after the digits of a number: nothing, or a letter `e`, a sign and digits. -/
def exponentOf? : List Char → Option Int
  | [] => some 0
  | c :: rest =>
    let (negative, digits) := signed rest
    if (c == 'e' || c == 'E') && !digits.isEmpty && digits.all Char.isDigit then
      let e : Int := Decimal.value digits
      some (if negative then -e else e)
    else none

/-- The double nearest to a number in decimal or scientific notation, or the infinity or the value
that is not a number when the text is one of their names, in any case. -/
def ofDecimal? (cs : List Char) : Option Double :=
  let (negative, body) := signed cs
  let name := String.ofList (body.map Char.toLower)
  if name = "inf" || name = "infinity" then some (infinity negative)
  else if name = "nan" then some notANumber
  else
    let whole := body.takeWhile Char.isDigit
    let rest := body.dropWhile Char.isDigit
    let (fraction, rest) :=
      match rest with
      | '.' :: rest => (rest.takeWhile Char.isDigit, rest.dropWhile Char.isDigit)
      | rest => ([], rest)
    if whole.isEmpty && fraction.isEmpty then none
    else
      (exponentOf? rest).map fun e =>
        ofScientific negative (Decimal.value (whole ++ fraction)) (e - fraction.length)

/-! ### The quick way -/

/-- Appends digits to a number as long as it stays below `2 ^ 64`.  The answer holds the number and
the digits that are left. -/
def absorb : Nat → List Char → Nat × List Char
  | n, [] => (n, [])
  | n, c :: rest =>
    let next := 10 * n + (c.toNat - '0'.toNat)
    if next < 0x10000000000000000 then absorb next rest else (n, c :: rest)

/-- A positive double times a power of ten.  Up to the 308th power this is one multiplication or
division by the double nearest to the power; below that, divisions by `10 ^ 308` come first.  There
is no answer when the result is too large. -/
def scaled? (d : Double) (exponent : Int) : Option Double :=
  if exponent.natAbs ≤ 308 then
    if 0 ≤ exponent then
      let product := d.times (powerOfTen exponent.natAbs)
      if product.isFinite then some product else none
    else some (d.dividedBy (powerOfTen exponent.natAbs))
  else if d.isZero then some d
  else if 0 ≤ exponent then none
  else scaled? (d.dividedBy (powerOfTen 308)) (exponent + 308)
termination_by exponent.natAbs
decreasing_by omega

end PropertyGraph.Double
