import PropertyGraph.Graph.Identity

/-!
# Faults of decoding

Why a document is not the request, the identity or the settings that were expected.

## Main definitions

* `Variant` — the values that may be written in several shapes.
* `Fault` — the causes.
* `Fault.message` — their wording.
-/

namespace PropertyGraph.Decode

/-- The values that may be written in several shapes. -/
inductive Variant where
  /-- An identity. -/
  | identity
  /-- An endpoint of a relationship. -/
  | endpoint
  /-- A sort order. -/
  | sortOrder
  deriving DecidableEq, Repr

/-- The name of a variant in messages. -/
def Variant.name : Variant → String
  | .identity => "IdentityRepr"
  | .endpoint => "EndpointRepr"
  | .sortOrder => "SortSpec"

/-- Why a document cannot be decoded. -/
inductive Fault where
  /-- The text is no JSON document. -/
  | malformed
  /-- A value is of another type than its field. -/
  | invalidType
  /-- An integer is too large for its field. -/
  | invalidValue
  /-- An array has too many items, or too few for a required field. -/
  | invalidLength
  /-- A required field is missing. -/
  | missingField (name : String)
  /-- A field is given twice. -/
  | duplicateField (name : String)
  /-- A value has none of the shapes of its variant. -/
  | unrecognized (variant : Variant)
  /-- A value has a shape of an identity but is none. -/
  | identity (error : Identity.Error)
  deriving DecidableEq, Repr

/-- The wording of a fault. -/
def Fault.message : Fault → String
  | .malformed => "malformed document"
  | .invalidType => "invalid type"
  | .invalidValue => "invalid value"
  | .invalidLength => "invalid length"
  | .missingField name => "missing field `" ++ name ++ "`"
  | .duplicateField name => "duplicate field `" ++ name ++ "`"
  | .unrecognized variant => "data did not match any variant of untagged enum " ++ variant.name
  | .identity error => error.message

end PropertyGraph.Decode
