import PropertyGraph.Decimal.Digits
import PropertyGraph.Cypher.Joining

/-!
# Sorting and paging

A list of results is sorted by properties and cut to a page.  A sort order is a property, a property
with a direction, or a list of sort orders, to any depth; only its leaves from left to right matter.
A page leaves out a number of results and ends after a number of them.  A limit of zero asks for
nothing at all, a negative one for everything, and an offset that is not positive leaves nothing
out.

## Main definitions

* `SortOrder` — how results are sorted.
* `SortOrder.terms`, `SortOrder.clause` — the terms of a sort order and the clause that they make.
* `Paging` — a sort order, an offset and a limit.
* `Paging.clauses` — the clauses of a page.
* `Paging.Step` — one setting of a page; the last one of a kind counts.
-/

namespace PropertyGraph

/-- How results are sorted. -/
inductive SortOrder where
  /-- By a property, in rising order. -/
  | bare (name : String)
  /-- By a property, in the given direction. -/
  | directed (name : String) (descending : Bool)
  /-- By one order after another. -/
  | sequence (orders : List SortOrder)
  deriving Repr, Inhabited

namespace SortOrder

/-- One property of a sort order. -/
inductive Leaf where
  /-- A property by its name alone. -/
  | bare (name : String)
  /-- A property with a direction. -/
  | directed (name : String) (descending : Bool)
  deriving DecidableEq, Repr

mutual

/-- The properties of a sort order, from left to right. -/
def leaves : SortOrder → List Leaf
  | .bare name => [.bare name]
  | .directed name descending => [.directed name descending]
  | .sequence orders => leavesOf orders

/-- The properties of all the orders of a list. -/
def leavesOf : List SortOrder → List Leaf
  | [] => []
  | order :: rest => leaves order ++ leavesOf rest

end

/-- The term of one property: `n.name`, with `DESC` for falling order.  An empty name alone makes no
term. -/
def Leaf.term? (var : String) : Leaf → Option String
  | .bare name => if name.isEmpty then none else some (var ++ "." ++ name)
  | .directed name descending =>
    some (var ++ "." ++ name ++ (if descending then " DESC" else ""))

/-- The terms of a sort order for a variable. -/
def terms (order : SortOrder) (var : String) : List String :=
  order.leaves.filterMap (Leaf.term? var)

/-- The clause of a sort order; nothing when it has no terms. -/
def clause (order : SortOrder) (var : String) : String :=
  Cypher.listed "ORDER BY" ", " (order.terms var)

end SortOrder

/-- How a list of results is sorted and cut. -/
structure Paging where
  /-- How the results are sorted. -/
  order : Option SortOrder := none
  /-- How many results are left out at the beginning. -/
  offset : Option Int64 := none
  /-- How many results there are at most. -/
  limit : Option Int64 := none
  deriving Repr, Inhabited

namespace Paging

/-- The first results, at most so many. -/
def first (limit : Int64) : Paging :=
  ⟨none, none, some limit⟩

/-- Whether the page asks for nothing at all. -/
def asksNothing (p : Paging) : Bool :=
  p.limit == some 0

/-- A keyword and a number, when the number is positive; nothing otherwise. -/
def counted (keyword : String) (n : Option Int64) : String :=
  match n with
  | none => ""
  | some k => if 0 < k.toInt then keyword ++ " " ++ Decimal.text k.toInt else ""

/-- The clauses of a page for a variable: how to sort, how many results to leave out and how many to
give, as far as they are there. -/
def clauses (p : Paging) (var : String) : String :=
  Cypher.words [p.order.elim "" (·.clause var), counted "SKIP" p.offset, counted "LIMIT" p.limit]

/-- One setting of a page. -/
inductive Step where
  /-- Sets the sort order. -/
  | order (order : SortOrder)
  /-- Sets the offset. -/
  | offset (n : Int64)
  /-- Sets the limit. -/
  | limit (n : Int64)

/-- A page after one more setting. -/
def set (p : Paging) : Step → Paging
  | .order order => { p with order := some order }
  | .offset n => { p with offset := some n }
  | .limit n => { p with limit := some n }

/-- A page after settings, one after another. -/
def setAll (p : Paging) (steps : List Step) : Paging :=
  steps.foldl set p

/-- The clauses of an optional page after a space; nothing when there are none. -/
def suffix (p : Option Paging) (var : String) : String :=
  p.elim "" fun p => Cypher.afterSpace (p.clauses var)

end Paging

end PropertyGraph
