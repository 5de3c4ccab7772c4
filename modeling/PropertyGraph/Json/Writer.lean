import PropertyGraph.Json.Basic
import PropertyGraph.Decimal.Layout

/-!
# The text of a JSON value

A value is written without blanks.  A string escapes the quote, the backslash and the control
characters, and nothing else; a double that is not finite is written as `null`.

## Main definitions

* `Json.chars` — the text as a list of characters.
* `Json.text` — the text.
-/

namespace PropertyGraph

/-- The text of a number. -/
def Number.chars : Number → List Char
  | .int n => Decimal.ofInt n
  | .double d => if d.isFinite then d.written else ['n', 'u', 'l', 'l']

namespace Json

/-- The two lower-case hexadecimal digits of a number below 256. -/
def hexPair (n : Nat) : List Char :=
  [Nat.digitChar (n / 16), Nat.digitChar (n % 16)]

/-- How one character is written inside a string. -/
def escapedChar (c : Char) : List Char :=
  if c = '"' then ['\\', '"']
  else if c = '\\' then ['\\', '\\']
  else if c = '\x08' then ['\\', 'b']
  else if c = '\x0c' then ['\\', 'f']
  else if c = '\n' then ['\\', 'n']
  else if c = '\r' then ['\\', 'r']
  else if c = '\t' then ['\\', 't']
  else if c.toNat < 0x20 then '\\' :: 'u' :: '0' :: '0' :: hexPair c.toNat
  else [c]

/-- A string between quotes. -/
def stringChars (s : String) : List Char :=
  '"' :: s.toList.flatMap escapedChar ++ ['"']

mutual

/-- The text of a value as a list of characters. -/
def chars : Json → List Char
  | .null => ['n', 'u', 'l', 'l']
  | .bool true => ['t', 'r', 'u', 'e']
  | .bool false => ['f', 'a', 'l', 's', 'e']
  | .number n => n.chars
  | .string s => stringChars s
  | .array [] => ['[', ']']
  | .array (v :: rest) => '[' :: chars v ++ itemsChars rest
  | .object [] => ['{', '}']
  | .object ((k, v) :: rest) => '{' :: stringChars k ++ ':' :: chars v ++ membersChars rest

/-- The items after the first one, each after a comma, and the closing bracket. -/
def itemsChars : List Json → List Char
  | [] => [']']
  | v :: rest => ',' :: chars v ++ itemsChars rest

/-- The members after the first one, each after a comma, and the closing brace. -/
def membersChars : List (String × Json) → List Char
  | [] => ['}']
  | (k, v) :: rest => ',' :: stringChars k ++ ':' :: chars v ++ membersChars rest

end

/-- The text of a value. -/
def text (v : Json) : String :=
  .ofList v.chars

@[simp] theorem toList_text (v : Json) : v.text.toList = v.chars := by
  simp [text]

end Json

end PropertyGraph
