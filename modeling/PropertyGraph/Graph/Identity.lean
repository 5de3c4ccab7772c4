import PropertyGraph.Text.Blank
import PropertyGraph.Text.Quoted
import PropertyGraph.Json.Basic
import PropertyGraph.Decimal.Digits

/-!
# Identities

The number that the database gives to a node or a relationship.  It may arrive as an integer, as a
decimal string, or as a pair of 32-bit words; all three make the same 64-bit number.

## Main definitions

* `Identity` — a 64-bit number with sign.
* `Identity.ofWords` — the identity of two words, the lower one read without sign.
* `Identity.parse` — the identity that a decimal string names.
* `Identity.Error` — why a string or a pair of words names none.
-/

namespace PropertyGraph

/-- The number that the database gives to a node or a relationship. -/
structure Identity where
  /-- The number. -/
  val : Int64
  deriving DecidableEq, Repr, Inhabited

namespace Identity

/-- Why a text or a pair of words is no identity. -/
inductive Error where
  /-- The text is not made of decimal digits, or its number needs more than 63 bits. -/
  | notNumeric (text : String)
  /-- A word of a pair needs more than 32 bits. -/
  | wordOutOfRange (word : Int64)
  deriving DecidableEq, Repr

/-- The number as an integer. -/
def toInt (id : Identity) : Int :=
  id.val.toInt

theorem toInt_inj {a b : Identity} : a.toInt = b.toInt ↔ a = b := by
  cases a
  cases b
  simp [toInt, Int64.toInt_inj]

/-- The decimal text of an identity. -/
def text (id : Identity) : String :=
  Decimal.text id.toInt

/-- The identity as a JSON number. -/
def toJson (id : Identity) : Json :=
  .number (.int id.toInt)

/-- Identities are ordered as numbers. -/
instance : Ord Identity := ⟨fun a b => compare a.toInt b.toInt⟩

/-- The identity of two 32-bit words.  The lower word is read without sign, so that a lower word of
minus one and an upper word of zero make `2 ^ 32 - 1`. -/
def ofWords (low high : Int32) : Identity :=
  ⟨.ofBitVec (high.toBitVec ++ low.toBitVec)⟩

/-- The identity of two words of 64 bits each.  The lower word may be given with or without sign; it
is checked first. -/
def ofWideWords (low high : Int64) : Except Error Identity :=
  if ¬(-0x80000000 ≤ low.toInt ∧ low.toInt < 0x100000000) then .error (.wordOutOfRange low)
  else if ¬(-0x80000000 ≤ high.toInt ∧ high.toInt < 0x80000000) then .error (.wordOutOfRange high)
  else .ok (ofWords (.ofInt low.toInt) (.ofInt high.toInt))

/-- The identity that a text names: decimal digits, with blanks around them, of a number below
`2 ^ 63`. -/
def parse (s : String) : Except Error Identity :=
  let digits := Text.trimChars s.toList
  if ¬digits.isEmpty ∧ digits.all Char.isDigit ∧ Decimal.value digits < 0x8000000000000000 then
    .ok ⟨.ofNat (Decimal.value digits)⟩
  else .error (.notNumeric s)

/-- The identity when it may be one of the database, which are not negative. -/
def nonnegative? (id : Identity) : Option Identity :=
  if 0 ≤ id.toInt then some id else none

/-- The identities in rising order, each one once. -/
def sortedDistinct (ids : List Identity) : List Identity :=
  (ids.mergeSort fun a b => a.toInt ≤ b.toInt).foldr
    (fun id rest => if rest.head? = some id then rest else id :: rest) []

/-- The message of an error.  A text is shown between quotes as it came, with its blanks. -/
def Error.message : Error → String
  | .notNumeric s => "identifier is not a decimal integer: " ++ Text.quoted s
  | .wordOutOfRange word => "identifier word out of 32-bit range: " ++ Decimal.text word.toInt

end Identity

end PropertyGraph
