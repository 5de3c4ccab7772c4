import PropertyGraph.Decode.Basic

/-!
# Schemas

A record is written either as an object with its fields by name, or as an array with its fields by
position.  Both start from a blank record and write one field after another, in the order of the
document; a field that is not given keeps its blank value.  By name, other members are skipped and a
field may not come twice; by position, the last fields may be left out.  A field that is required
has to be there.

## Main definitions

* `Field` — a name, and how a value for it changes the record.
* `Schema` — a blank record and its fields in order.
* `Schema.byName`, `Schema.byPosition` — the two ways to write a record.
* `Schema.decode` — a record in either of them.
-/

namespace PropertyGraph.Decode

/-- One field of a record. -/
structure Field (α : Type) where
  /-- The name in an object. -/
  name : String
  /-- Whether the field has to be there. -/
  isRequired : Bool
  /-- How a value for the field changes the record. -/
  read : Decoder (α → α)

namespace Field

variable {α β : Type}

/-- A field that may be left out, from a decoder for its values and a way to write them. -/
def of (name : String) (decode : Decoder β) (write : β → α → α) : Field α :=
  ⟨name, false, fun o d => (decode o d).map write⟩

/-- A field that has to be there. -/
def required (name : String) (decode : Decoder β) (write : β → α → α) : Field α :=
  ⟨name, true, fun o d => (decode o d).map write⟩

end Field

/-- A record with its fields. -/
structure Schema (α : Type) where
  /-- The record before any field is written. -/
  blank : α
  /-- The fields, in the order that they have in an array. -/
  fields : List (Field α)

namespace Schema

variable {α : Type}

/-- The field with a name. -/
def field? (s : Schema α) (name : String) : Option (Field α) :=
  s.fields.find? (·.name = name)

/-- The first required field that is not among the given names. -/
def missing? (s : Schema α) (seen : List String) : Option (Field α) :=
  s.fields.find? fun f => f.isRequired && !seen.contains f.name

/-- A record whose fields come by name.  The arguments are whether the object is closed, the names
of the fields that were given already, the record so far and the members that follow. -/
def byName (s : Schema α) (o : Origin) (closed : Bool) :
    List String → α → List (Option String × Draft) → Except Fault α
  | seen, record, [] =>
    if closed then
      match s.missing? seen with
      | some f => .error (.missingField f.name)
      | none => .ok record
    else .error .malformed
  | _, _, (none, _) :: _ => .error .malformed
  | seen, record, (some name, d) :: rest =>
    match s.field? name with
    | none =>
      if d.isComplete then byName s o closed seen record rest else .error .malformed
    | some f =>
      if seen.contains name then .error (.duplicateField name)
      else
        match f.read o d with
        | .error fault => .error fault
        | .ok write => byName s o closed (name :: seen) (write record) rest

/-- The fault of an array with more items than there are fields. -/
def surplus : Origin → Fault
  | .tree => .invalidLength
  | .text _ => .malformed

/-- A record whose fields come by position.  The arguments are whether the array is closed, the
fields that are still to come, the record so far and the items that follow. -/
def byPosition (o : Origin) (closed : Bool) :
    List (Field α) → α → List Draft → Except Fault α
  | [], record, [] => if closed then .ok record else .error .malformed
  | [], _, _ :: _ => .error (surplus o)
  | f :: fields, record, [] =>
    if !closed then .error .malformed
    else if (f :: fields).any (·.isRequired) then .error .invalidLength
    else .ok record
  | f :: fields, record, d :: rest =>
    match f.read o d with
    | .error fault => .error fault
    | .ok write => byPosition o closed fields (write record) rest

/-- A record, written as an object or as an array. -/
def decode (s : Schema α) : Decoder α
  | o, .object members closed =>
    match o.inside? with
    | none => .error .malformed
    | some inner => s.byName inner closed [] s.blank members
  | o, .array items closed =>
    match o.inside? with
    | none => .error .malformed
    | some inner => byPosition inner closed s.fields s.blank items
  | _, d => .error (unexpected d)

end Schema

end PropertyGraph.Decode
