import PropertyGraph.Decimal.Double
import PropertyGraph.Decimal.Digits

/-!
# Shortest digits

The fewest decimal digits that read back as a given double.  For one digit, two digits and so on up
to seventeen, the two neighbours of the value on that decimal grid are tried; the first grid with a
point that rounds to the double wins, and of two such points the nearer one.  Seventeen digits
always suffice.

## Main definitions

* `Double.Interval` — the reals that round to a double, counted in half steps.
* `Double.shortest` — the digits and the place of the first of them.
-/

namespace PropertyGraph.Double

/-- The reals between two ends, counted in half steps; the ends belong to it or not. -/
structure Interval where
  /-- The lower end. -/
  low : Nat
  /-- The upper end. -/
  high : Nat
  /-- Whether both ends belong to the interval. -/
  closed : Bool

/-- Whether the quotient `num / den` of half steps lies in the interval. -/
def Interval.contains (i : Interval) (num den : Nat) : Bool :=
  if i.closed then i.low * den ≤ num && num ≤ i.high * den
  else i.low * den < num && num < i.high * den

/-- The reals that round to the double with these magnitude bits.  The ends are half way to the two
neighbours, and belong to the interval when the last bit is zero. -/
def roundingInterval (magnitude : Nat) : Interval where
  low := stepsOf (magnitude - 1) + stepsOf magnitude
  high := stepsOf magnitude + stepsOf (magnitude + 1)
  closed := magnitude % 2 = 0

/-- A point `count * 10 ^ place` of a decimal grid. -/
structure GridPoint where
  /-- How many units of the grid. -/
  count : Nat
  /-- The power of ten that is the unit. -/
  place : Int
  deriving DecidableEq, Repr

/-- The unit `10 ^ place`, in half steps, as a numerator and a denominator. -/
def unit (place : Int) : Nat × Nat :=
  match place with
  | .ofNat k => (2 * stepsPerUnit * Nat.pow 10 k, 1)
  | .negSucc k => (2 * stepsPerUnit, Nat.pow 10 (k + 1))

/-- The power of ten of the first digit of a positive number of steps. -/
def leadingPlace (steps : Nat) : Int :=
  if stepsPerUnit ≤ steps then ((Decimal.ofNat (steps / stepsPerUnit)).length : Int) - 1
  else -((Decimal.ofNat (stepsPerUnit / steps)).length : Int)

/-- The point of the grid with the given unit that reads back as the double with these magnitude
bits, if one of the two neighbours of the value does.  When both do, the nearer one is taken, and of
two equally near ones the even one. -/
def onGrid (magnitude : Nat) (place : Int) : Option GridPoint :=
  let (num, den) := unit place
  let value := 2 * stepsOf magnitude * den
  let below := value / num
  let interval := roundingInterval magnitude
  let fits := fun count => interval.contains (count * num) den
  let gap := value - below * num
  let above := below + 1
  match fits below, fits above with
  | true, true =>
    let count :=
      if 2 * gap < num then below else if num < 2 * gap then above else below + below % 2
    some ⟨count, place⟩
  | true, false => some ⟨below, place⟩
  | false, true => some ⟨above, place⟩
  | false, false => none

/-- The first grid that answers, from `tried` digits on, with at most `more` further tries. -/
def firstGrid (magnitude : Nat) (leading : Int) : Nat → Nat → Option GridPoint
  | 0, _ => none
  | more + 1, tried =>
    match onGrid magnitude (leading - tried) with
    | some p => some p
    | none => firstGrid magnitude leading more (tried + 1)

/-- A run of digits and the power of ten of the first of them. -/
structure Digits where
  /-- The digits; the last one is not zero, except in the run for zero. -/
  digits : List Char
  /-- The power of ten of the first digit. -/
  leading : Int

/-- The digits of a grid point, without the zeros at the end. -/
def GridPoint.digits (p : GridPoint) : Digits :=
  let all := Decimal.ofNat p.count
  let kept := (all.reverse.dropWhile (· == '0')).reverse
  ⟨kept, p.place + all.length - 1⟩

/-- The fewest digits that read back as the magnitude of a finite double, and of those the nearest
to it.  Zero has one digit. -/
def shortest (d : Double) : Digits :=
  if d.isZero then ⟨['0'], 0⟩
  else
    match firstGrid d.magnitude (leadingPlace d.steps) 17 0 with
    | some p => p.digits
    | none => ⟨['0'], 0⟩

end PropertyGraph.Double
