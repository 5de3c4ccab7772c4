import PropertyGraph.Decode.Fault
import PropertyGraph.Json.Draft
import PropertyGraph.Graph.Properties

/-!
# Decoders

A decoder takes what it expects from a draft, from left to right, and answers with the first fault.
A value of another type is a fault as soon as its first character shows it, so the inside of an
array or an object that is not expected does not matter; a scalar is read to its end first.

## Main definitions

* `Decoder` — from a draft and its origin to a value or a fault.
* `bool`, `string`, `int64`, `list`, `properties` — decoders of plain values.
* `optional`, `orDefault` — decoders that accept `null`.
* `whole` — a decoder that needs the full value before it decides.
-/

namespace PropertyGraph.Decode

/-- Takes a value from a draft, or answers with the first fault. -/
abbrev Decoder (α : Type) := Origin → Draft → Except Fault α

/-- The fault of a value whose type is not the expected one.  A scalar that is broken, or a number
or string without a value, is no JSON at all. -/
def unexpected : Draft → Fault
  | .broken => .malformed
  | .number none => .malformed
  | .string none => .malformed
  | _ => .invalidType

/-- A truth value. -/
def bool : Decoder Bool
  | _, .bool b => .ok b
  | _, d => .error (unexpected d)

/-- A string. -/
def string : Decoder String
  | _, .string (some s) => .ok s
  | _, d => .error (unexpected d)

/-- An integer of 64 bits with sign. -/
def int64 : Decoder Int64
  | _, .number (some (.int n)) =>
    match (Json.number (.int n)).toInt64? with
    | some k => .ok k
    | none => .error .invalidValue
  | _, d => .error (unexpected d)

/-- An array, item by item. -/
def list {α : Type} (item : Decoder α) : Decoder (List α)
  | o, .array items closed =>
    match o.inside? with
    | none => .error .malformed
    | some inner => do
      let values ← items.mapM (item inner)
      if closed then .ok values else .error .malformed
  | _, d => .error (unexpected d)

/-- An object as a property map.  A name that repeats keeps its first place and its last value, also
inside the values. -/
def properties : Decoder Properties
  | o, .object members closed =>
    match o.inside?.bind (Draft.strictMembers? · members) with
    | none => .error .malformed
    | some members =>
      if closed then .ok (.ofList (Json.collapseMembers members)) else .error .malformed
  | _, d => .error (unexpected d)

/-- A value or `null`. -/
def optional {α : Type} (decode : Decoder α) : Decoder (Option α)
  | _, .null => .ok none
  | o, d => (decode o d).map some

/-- A value, or `null` for the default. -/
def orDefault {α : Type} [Inhabited α] (decode : Decoder α) : Decoder α
  | _, .null => .ok default
  | o, d => decode o d

/-- A value that is decoded from the full JSON value, which has to be sound throughout. -/
def whole {α : Type} (decode : Json → Except Fault α) : Decoder α := fun o d =>
  match d.strict? o with
  | none => .error .malformed
  | some v => decode v

end PropertyGraph.Decode
