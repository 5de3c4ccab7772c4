import PropertyGraph.Decode.Basic
import PropertyGraph.Cypher.Ends
import PropertyGraph.Cypher.Paging

/-!
# Values of several shapes

An identity, an endpoint and a sort order may each be written in several shapes.  The full value is
read first, and then the shapes are tried; a name that an object repeats spoils the shapes that look
at it.

## Main definitions

* `identity`, `identityIfAny` — an identity; the second takes all else for absent.
* `endpoint` — one side of a relationship.
* `sortOrder` — how results are sorted.
-/

namespace PropertyGraph.Decode

/-- The value of a name that occurs exactly once. -/
def single? (name : String) (members : List (String × Json)) : Option Json :=
  if (Entries.keys members).count name = 1 then Entries.get? name members else none

/-! ### Identities -/

/-- The two words of an identity, when the members have both of them as 64-bit integers. -/
def words? (members : List (String × Json)) : Option (Int64 × Int64) := do
  let low ← (← single? "low" members).toInt64?
  let high ← (← single? "high" members).toInt64?
  some (low, high)

/-- An identity from its full value: an integer, a decimal string, or an object with two words. -/
def identityOf : Json → Except Fault Identity
  | .number n =>
    match (Json.number n).toInt64? with
    | some k => .ok ⟨k⟩
    | none => .error (.unrecognized .identity)
  | .string s => (Identity.parse s).mapError .identity
  | .object members =>
    match words? members with
    | some (low, high) => (Identity.ofWideWords low high).mapError .identity
    | none => .error (.unrecognized .identity)
  | _ => .error (.unrecognized .identity)

/-- An identity. -/
def identity : Decoder Identity :=
  whole identityOf

/-- An identity, or nothing when the value is none.  Members that repeat are collapsed first. -/
def identityIfAny : Decoder (Option Identity) :=
  whole fun v => .ok (identityOf v.collapse).toOption

/-! ### Endpoints -/

/-- The strings of an array of strings. -/
def strings? : Json → Option (List String)
  | .array items => items.mapM fun
    | .string s => some s
    | _ => none
  | _ => none

/-- A filter: an object, or `null` for none. -/
def filter? : Json → Option (Option Properties)
  | .null => some none
  | .object members => some (some (.ofList (Json.collapseMembers members)))
  | _ => none

/-- A node selector from its labels and its filter, each of which may be absent. -/
def nodeSelector? (labels filter : Option Json) : Option NodeSelector := do
  let labels ← labels.elim (some []) strings?
  let filter ← filter.elim (some none) filter?
  some ⟨labels, filter⟩

/-- A node selector from the members of an object, which are its labels and its filter and nothing
else, each at most once. -/
def selectorOfMembers? (members : List (String × Json)) : Option NodeSelector :=
  if members.all (fun (k, _) => k = "labels" || k = "query") ∧ (Entries.keys members).Nodup then
    nodeSelector? (Entries.get? "labels" members) (Entries.get? "query" members)
  else none

/-- A node selector from the items of an array: its labels and its filter, in this order. -/
def selectorOfItems? : List Json → Option NodeSelector
  | [] => nodeSelector? none none
  | [labels] => nodeSelector? (some labels) none
  | [labels, filter] => nodeSelector? (some labels) (some filter)
  | _ => none

/-- An identity that an object gives under the name `id`. -/
def anchor? (members : List (String × Json)) : Option Identity :=
  (single? "id" members).bind fun v => (identityOf v).toOption

/-- An endpoint from its full value: `null` for any node, an object with an identity under `id`, or
a node selector as an object or as an array.  An object with an identity may have any other members;
a selector may not. -/
def endpointOf : Json → Except Fault Endpoint
  | .null => .ok .any
  | .object members =>
    match anchor? members, selectorOfMembers? members with
    | some id, _ => .ok (.node id)
    | none, some nodes => .ok (.selected nodes)
    | none, none => .error (.unrecognized .endpoint)
  | .array items =>
    match selectorOfItems? items with
    | some nodes => .ok (.selected nodes)
    | none => .error (.unrecognized .endpoint)
  | _ => .error (.unrecognized .endpoint)

/-- One side of a relationship. -/
def endpoint : Decoder Endpoint :=
  whole endpointOf

/-! ### Sort orders -/

/-- A property with a direction from the members of an object; rising when no direction is given. -/
def sortRule? (members : List (String × Json)) : Option SortOrder :=
  match single? "property" members with
  | some (.string name) =>
    if "desc" ∈ Entries.keys members then
      match single? "desc" members with
      | some (.bool descending) => some (.directed name descending)
      | _ => none
    else some (.directed name false)
  | _ => none

mutual

/-- A sort order from its full value: a string, an object with a property and a direction, or an
array of sort orders. -/
def sortOrder? : Json → Option SortOrder
  | .string name => some (.bare name)
  | .object members => sortRule? members
  | .array items => (sortOrders? items).map .sequence
  | _ => none

/-- The sort orders of all items. -/
def sortOrders? : List Json → Option (List SortOrder)
  | [] => some []
  | v :: rest =>
    match sortOrder? v, sortOrders? rest with
    | some order, some orders => some (order :: orders)
    | _, _ => none

end

/-- A sort order from its full value. -/
def sortOrderOf (v : Json) : Except Fault SortOrder :=
  match sortOrder? v with
  | some order => .ok order
  | none => .error (.unrecognized .sortOrder)

/-- How results are sorted. -/
def sortOrder : Decoder SortOrder :=
  whole sortOrderOf

end PropertyGraph.Decode
