import PropertyGraph.Decode.Requests

/-!
# The kinds of requests

The requests that are decoded from documents, as one enumeration, so that what holds of all of them
is stated once.

## Main definitions

* `RequestKind` — the kinds of requests.
* `RequestKind.Body`, `RequestKind.schema` — what a request of a kind is, and how it is decoded.
-/

namespace PropertyGraph.Decode

/-- The kinds of requests. -/
inductive RequestKind where
  /-- To create a node. -/
  | nodeCreation
  /-- To remove nodes. -/
  | nodeSelector
  /-- To change nodes. -/
  | nodeChange
  /-- To list nodes. -/
  | nodeSearch
  /-- To look up, remove or visit one thing by its identity. -/
  | byIdentity
  /-- To change one thing by its identity. -/
  | entityChange
  /-- To ask whether a node exists. -/
  | nodeProbe
  /-- To create a relationship. -/
  | relationCreation
  /-- To change relationships. -/
  | relationChange
  /-- To remove relationships. -/
  | relationSelector
  /-- To list relationships. -/
  | relationSearch
  /-- To list the nodes where relationships start. -/
  | sourceSearch
  /-- To list the nodes where relationships end. -/
  | targetSearch
  /-- To list the nodes on either end of relationships. -/
  | neighbourSearch
  /-- To ask whether a relationship exists. -/
  | relationProbe
  /-- To run a query in the caller's own words. -/
  | rawQuery
  deriving DecidableEq, Repr

namespace RequestKind

/-- What a request of a kind is. -/
abbrev Body : RequestKind → Type
  | nodeCreation => NodeCreation
  | nodeSelector => NodeSelector
  | nodeChange => NodeChange
  | nodeSearch => NodeSearch
  | byIdentity => Identity
  | entityChange => EntityChange
  | nodeProbe => NodeProbe
  | relationCreation => RelationCreation
  | relationChange => RelationChange
  | relationSelector => RelationSelector
  | relationSearch => RelationSearch
  | sourceSearch => EndSearch
  | targetSearch => EndSearch
  | neighbourSearch => EndSearch
  | relationProbe => RelationProbe
  | rawQuery => RawQuery

/-- How a request of a kind is decoded. -/
def schema : (kind : RequestKind) → Schema kind.Body
  | nodeCreation => Schema.nodeCreation
  | nodeSelector => Schema.nodeSelector
  | nodeChange => Schema.nodeChange
  | nodeSearch => Schema.nodeSearch
  | byIdentity => Schema.byIdentity
  | entityChange => Schema.entityChange
  | nodeProbe => Schema.nodeProbe
  | relationCreation => Schema.relationCreation
  | relationChange => Schema.relationChange
  | relationSelector => Schema.relationSelector
  | relationSearch => Schema.relationSearch
  | sourceSearch => Schema.sourceSearch
  | targetSearch => Schema.targetSearch
  | neighbourSearch => Schema.neighbourSearch
  | relationProbe => Schema.relationProbe
  | rawQuery => Schema.rawQuery

end RequestKind

end PropertyGraph.Decode
