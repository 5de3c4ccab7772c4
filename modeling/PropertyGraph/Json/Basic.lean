import PropertyGraph.Entries
import PropertyGraph.Decimal.Double

/-!
# JSON values

The values that requests carry and properties hold.  A number is an integer or a double, and the
members of an object keep their order.  A document may repeat a member; `collapse` keeps the place
of the first and the value of the last, at every depth.

## Main definitions

* `Json` — a JSON value.
* `Json.collapse` — the value with each member once.
-/

namespace PropertyGraph

/-- A JSON number. -/
inductive Number where
  /-- A number written without fraction and exponent that fits 64 bits. -/
  | int (n : Int)
  /-- Any other number. -/
  | double (d : Double)
  deriving DecidableEq, Repr, Inhabited

/-- A JSON value. -/
inductive Json where
  /-- The value `null`. -/
  | null
  /-- A truth value. -/
  | bool (b : Bool)
  /-- A number. -/
  | number (n : Number)
  /-- A string. -/
  | string (s : String)
  /-- An array, with its items in order. -/
  | array (items : List Json)
  /-- An object, with its members in order; a name may repeat. -/
  | object (members : List (String × Json))
  deriving Repr, Inhabited

namespace Json

mutual

/-- The value with each member of each object once: at the place of the first of its name and with
the value of the last. -/
def collapse : Json → Json
  | .null => .null
  | .bool b => .bool b
  | .number n => .number n
  | .string s => .string s
  | .array items => .array (collapseItems items)
  | .object members => .object (Entries.ofList (collapseMembers members))

/-- Each item collapsed. -/
def collapseItems : List Json → List Json
  | [] => []
  | v :: rest => collapse v :: collapseItems rest

/-- The value of each member collapsed. -/
def collapseMembers : List (String × Json) → List (String × Json)
  | [] => []
  | (k, v) :: rest => (k, collapse v) :: collapseMembers rest

end

/-- The value of a member, when the value is an object that has it. -/
def member? (name : String) : Json → Option Json
  | .object members => Entries.get? name members
  | _ => none

/-- The number as an integer of 64 bits with sign, when it is one. -/
def toInt64? : Json → Option Int64
  | .number (.int n) =>
    if -0x8000000000000000 ≤ n ∧ n < 0x8000000000000000 then some (.ofInt n) else none
  | _ => none

/-- An integer of 64 bits is one in a value. -/
theorem toInt64?_eq_some_iff {v : Json} {n : Int64} :
    v.toInt64? = some n ↔ v = .number (.int n.toInt) := by
  have hlow := Int64.le_toInt n
  have hhigh := Int64.toInt_lt n
  constructor
  · intro h
    unfold toInt64? at h
    split at h
    · next k =>
      split at h
      · next hif =>
        cases h
        rw [Int64.toInt_ofInt_of_le (by omega) (by omega)]
      · cases h
    · cases h
  · rintro rfl
    have hif : -0x8000000000000000 ≤ n.toInt ∧ n.toInt < 0x8000000000000000 := by omega
    simp only [toInt64?]
    rw [if_pos hif, Int64.ofInt_toInt]

end Json

end PropertyGraph
