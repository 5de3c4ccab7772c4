import PropertyGraph.Json.Basic

/-!
# Drafts

What a reader has found of a JSON value before anybody has asked for it.  A text may be no JSON at
all from some place on, and whether that matters depends on who reads it: a reader that expects a
truth value and finds an array stops there, and one that skips a member does not look at the
characters of a string.  So a draft keeps the part of the value that the text has, with a mark where
the text breaks off; `Draft.strict?` is the full value, for a reader that needs all of it.

## Main definitions

* `Draft` — a value as far as its text has it.
* `Origin` — where a draft comes from: a text, in which nesting is bounded, or a value in hand.
* `Draft.strict?` — the value, when the draft is a value throughout.
* `Draft.ofJson` — a value in hand as a draft.
-/

namespace PropertyGraph

/-- A JSON value as far as its text has it. -/
inductive Draft where
  /-- The text has no value here, or one that breaks off. -/
  | broken
  /-- The value `null`. -/
  | null
  /-- A truth value. -/
  | bool (b : Bool)
  /-- A numeral; without a value when it is too large for a double. -/
  | number (n : Option Number)
  /-- A string; without a value when it escapes half of a surrogate pair. -/
  | string (s : Option String)
  /-- An array: the items up to the end or to where the text breaks off, and whether the closing
  bracket is there. -/
  | array (items : List Draft) (closed : Bool)
  /-- An object: the members up to the end or to where the text breaks off, and whether the closing
  brace is there. -/
  | object (members : List (Option String × Draft)) (closed : Bool)
  deriving Inhabited

/-- Where a draft comes from. -/
inductive Origin where
  /-- A value in hand.  Nesting is not bounded. -/
  | tree
  /-- A text in which so many arrays and objects may still be opened inside one another. -/
  | text (room : Nat)
  deriving DecidableEq, Repr

namespace Origin

/-- A text as a whole: arrays and objects are nested less than 128 deep. -/
def document : Origin := .text 127

/-- The origin of what stands inside an array or an object, when there is room for one. -/
def inside? : Origin → Option Origin
  | .tree => some .tree
  | .text 0 => none
  | .text (room + 1) => some (.text room)

end Origin

namespace Draft

mutual

/-- A value in hand as a draft. -/
def ofJson : Json → Draft
  | .null => .null
  | .bool b => .bool b
  | .number n => .number (some n)
  | .string s => .string (some s)
  | .array items => .array (ofItems items) true
  | .object members => .object (ofMembers members) true

/-- Each item as a draft. -/
def ofItems : List Json → List Draft
  | [] => []
  | v :: rest => ofJson v :: ofItems rest

/-- Each member as a draft. -/
def ofMembers : List (String × Json) → List (Option String × Draft)
  | [] => []
  | (k, v) :: rest => (some k, ofJson v) :: ofMembers rest

end

/-- Whether the text has the value to its end.  A closing mark stands only after complete items, so
the outermost one decides. -/
def isComplete : Draft → Bool
  | .broken => false
  | .array _ closed => closed
  | .object _ closed => closed
  | _ => true

mutual

/-- The value of a draft, when it is a value throughout: complete, every number and string with a
value, and arrays and objects nested no deeper than the origin has room for. -/
def strict? : Origin → Draft → Option Json
  | _, .broken => none
  | _, .null => some .null
  | _, .bool b => some (.bool b)
  | _, .number n => n.map .number
  | _, .string s => s.map .string
  | o, .array items closed =>
    match o.inside? with
    | none => none
    | some o' => if closed then (strictItems? o' items).map .array else none
  | o, .object members closed =>
    match o.inside? with
    | none => none
    | some o' => if closed then (strictMembers? o' members).map .object else none

/-- The values of all items. -/
def strictItems? : Origin → List Draft → Option (List Json)
  | _, [] => some []
  | o, d :: rest =>
    match strict? o d, strictItems? o rest with
    | some v, some vs => some (v :: vs)
    | _, _ => none

/-- The names and values of all members. -/
def strictMembers? : Origin → List (Option String × Draft) → Option (List (String × Json))
  | _, [] => some []
  | o, (k, d) :: rest =>
    match k, strict? o d, strictMembers? o rest with
    | some k, some v, some vs => some ((k, v) :: vs)
    | _, _, _ => none

end

end Draft

end PropertyGraph
