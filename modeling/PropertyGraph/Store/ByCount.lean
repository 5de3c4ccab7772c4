import PropertyGraph.Json.Basic

/-!
# Nothing, one or several

A change may concern nothing, one thing or several things, and callers want to see which.

## Main definitions

* `ByCount` — a list told apart by its length.
* `ByCount.ofList`, `ByCount.toList` — from a list and back.
-/

namespace PropertyGraph

/-- A list told apart by its length. -/
inductive ByCount (α : Type) where
  /-- No items. -/
  | nothing
  /-- One item. -/
  | one (item : α)
  /-- Several items, in order. -/
  | several (items : List α)
  deriving DecidableEq, Repr, Inhabited

namespace ByCount

variable {α : Type}

/-- A list by its length. -/
def ofList : List α → ByCount α
  | [] => .nothing
  | [item] => .one item
  | items => .several items

/-- The items in order. -/
def toList : ByCount α → List α
  | .nothing => []
  | .one item => [item]
  | .several items => items

/-- How many items there are. -/
def size (c : ByCount α) : Nat :=
  c.toList.length

/-- Whether there is nothing. -/
def isNothing : ByCount α → Bool
  | .nothing => true
  | _ => false

/-- As JSON: `null`, the item, or an array of the items. -/
def toJson (item : α → Json) : ByCount α → Json
  | .nothing => .null
  | .one x => item x
  | .several items => .array (items.map item)

@[simp] theorem toList_ofList (items : List α) : (ofList items).toList = items := by
  unfold ofList; split <;> rfl

end ByCount

end PropertyGraph
