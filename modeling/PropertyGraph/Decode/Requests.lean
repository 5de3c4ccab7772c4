import PropertyGraph.Decode.Schema
import PropertyGraph.Decode.Variants
import PropertyGraph.Store.Requests

/-!
# Decoding requests

The schema of each request.  Labels, data and directions may be `null`, which stands for none; a
filter, a type and a page that are `null` are absent.

## Main definitions

* `Schema.paging` — the schema of a page.
* `Schema.nodeCreation` and the others — the schemas of the requests.
-/

namespace PropertyGraph.Decode.Schema

/-! ### Fields -/

/-- The field for labels. -/
def labelsField {α : Type} (write : List String → α → α) : Field α :=
  .of "labels" (orDefault (list string)) write

/-- The field for properties to write. -/
def dataField {α : Type} (write : Properties → α → α) : Field α :=
  .of "data" (orDefault properties) write

/-- The field for a filter on properties. -/
def filterField {α : Type} (write : Option Properties → α → α) : Field α :=
  .of "query" (optional properties) write

/-- The field for the type of a relationship. -/
def typeField {α : Type} (write : Option String → α → α) : Field α :=
  .of "type" (optional string) write

/-- A field for an endpoint. -/
def endpointField {α : Type} (name : String) (write : Endpoint → α → α) : Field α :=
  .of name endpoint write

/-- The field that leaves the direction of a relationship open. -/
def eitherWayField {α : Type} (write : Bool → α → α) : Field α :=
  .of "anyDirection" (orDefault bool) write

/-- The schema of a page. -/
def paging : Schema Paging where
  blank := {}
  fields := [
    .of "orderBy" (optional sortOrder) fun v p => { p with order := v },
    .of "offset" (optional int64) fun v p => { p with offset := v },
    .of "limit" (optional int64) fun v p => { p with limit := v }]

/-- The field for a page. -/
def pagingField {α : Type} (write : Option Paging → α → α) : Field α :=
  .of "options" (optional paging.decode) write

/-! ### Requests about nodes -/

/-- A node to create. -/
def nodeCreation : Schema NodeCreation where
  blank := {}
  fields := [
    labelsField fun v r => { r with labels := v },
    dataField fun v r => { r with data := v }]

/-- The nodes of a selector. -/
def nodeSelector : Schema NodeSelector where
  blank := {}
  fields := [
    labelsField fun v r => { r with labels := v },
    filterField fun v r => { r with filter := v }]

/-- Properties to set on the nodes of a selector. -/
def nodeChange : Schema NodeChange where
  blank := {}
  fields := [
    labelsField fun v r => { r with nodes.labels := v },
    filterField fun v r => { r with nodes.filter := v },
    dataField fun v r => { r with data := v }]

/-- Nodes to list. -/
def nodeSearch : Schema NodeSearch where
  blank := {}
  fields := [
    labelsField fun v r => { r with nodes.labels := v },
    filterField fun v r => { r with nodes.filter := v },
    pagingField fun v r => { r with paging := v }]

/-- A node whose existence is asked for. -/
def nodeProbe : Schema NodeProbe where
  blank := {}
  fields := [
    .of "id" identityIfAny fun v r => { r with id := v },
    filterField fun v r => { r with nodes.filter := v },
    labelsField fun v r => { r with nodes.labels := v }]

/-! ### Requests by identity -/

/-- An identity alone.  The blank identity is never the answer, as the field is required. -/
def byIdentity : Schema Identity where
  blank := default
  fields := [.required "id" identity fun v _ => v]

/-- Properties to set on the node or the relationship with an identity.  The blank identity is never
part of the answer, as the field is required. -/
def entityChange : Schema EntityChange where
  blank := { id := default }
  fields := [
    .required "id" identity fun v r => { r with id := v },
    dataField fun v r => { r with data := v }]

/-! ### Requests about relationships -/

/-- A relationship to create. -/
def relationCreation : Schema RelationCreation where
  blank := {}
  fields := [
    endpointField "from" fun v r => { r with source := v },
    typeField fun v r => { r with relType := v },
    endpointField "to" fun v r => { r with target := v },
    dataField fun v r => { r with data := v }]

/-- The fields of a selector, as part of a larger record. -/
def selectorFields {α : Type} (change : (RelationSelector → RelationSelector) → α → α) :
    List (Field α) := [
  endpointField "from" fun v => change fun s => { s with source := v },
  typeField fun v => change fun s => { s with relType := v },
  endpointField "to" fun v => change fun s => { s with target := v },
  eitherWayField fun v => change fun s => { s with eitherWay := v },
  filterField fun v => change fun s => { s with filter := v }]

/-- The relationships of a selector. -/
def relationSelector : Schema RelationSelector where
  blank := {}
  fields := selectorFields id

/-- Properties to set on the relationships of a selector. -/
def relationChange : Schema RelationChange where
  blank := {}
  fields := selectorFields (fun f r => { r with relations := f r.relations }) ++ [
    dataField fun v r => { r with data := v }]

/-- Relationships to list. -/
def relationSearch : Schema RelationSearch where
  blank := {}
  fields := selectorFields (fun f r => { r with relations := f r.relations }) ++ [
    pagingField fun v r => { r with paging := v }]

/-- A relationship whose existence is asked for. -/
def relationProbe : Schema RelationProbe where
  blank := {}
  fields := [
    .of "id" identityIfAny fun v r => { r with id := v },
    endpointField "from" fun v r => { r with source := v },
    typeField fun v r => { r with relType := v },
    endpointField "to" fun v r => { r with target := v },
    eitherWayField fun v r => { r with eitherWay := v }]

/-- Nodes at one end of relationships, given the name of the field for the other end. -/
def endSearch (known : String) : Schema EndSearch where
  blank := {}
  fields := [
    endpointField known fun v r => { r with known := v },
    typeField fun v r => { r with relType := v },
    filterField fun v r => { r with filter := v },
    pagingField fun v r => { r with paging := v }]

/-- Nodes where relationships to a known end start. -/
def sourceSearch : Schema EndSearch := endSearch "to"

/-- Nodes where relationships from a known end end. -/
def targetSearch : Schema EndSearch := endSearch "from"

/-- Nodes that have a relationship with a known one, whichever way it goes. -/
def neighbourSearch : Schema EndSearch := endSearch "anyNode"

/-! ### Raw queries -/

/-- A query in the caller's own words. -/
def rawQuery : Schema RawQuery where
  blank := {}
  fields := [
    .of "query" string fun v r => { r with text := v },
    .of "parameters" (optional properties) fun v r => { r with params := v }]

end PropertyGraph.Decode.Schema
