import PropertyGraph.Json.Draft
import PropertyGraph.Json.Numeral

/-!
# Reading JSON

A text is read from left to right into a draft, as far as the grammar goes, together with the
characters that follow a complete value.  The recursion is bounded by the length of the text: a
value in an array takes two steps, and each array and each item has a character of its own.

## Main definitions

* `Json.StringPart`, `Json.joined?` — the characters and escapes of a string, and the string they
  make.
* `Draft.read` — the value at the front of a text, and what follows it.
* `Json.read?` — the value of a whole text.
-/

namespace PropertyGraph

namespace Json

/-! ### Strings -/

/-- One unit of a string in a text. -/
inductive StringPart where
  /-- A character, written as itself or with a short escape. -/
  | char (c : Char)
  /-- Four hexadecimal digits after the letter `u`, as a number. -/
  | unit (n : Nat)
  deriving DecidableEq, Repr

/-- The value of a hexadecimal digit of either case. -/
def hexValue? (c : Char) : Option Nat :=
  if c.isDigit then some (c.toNat - '0'.toNat)
  else if 'a' ≤ c ∧ c ≤ 'f' then some (c.toNat - 'a'.toNat + 10)
  else if 'A' ≤ c ∧ c ≤ 'F' then some (c.toNat - 'A'.toNat + 10)
  else none

/-- The value of four hexadecimal digits. -/
def hexUnit? (a b c d : Char) : Option Nat := do
  some (((← hexValue? a) * 16 + (← hexValue? b)) * 256 + ((← hexValue? c) * 16 + (← hexValue? d)))

/-- The character of an escape of one letter. -/
def shortEscape? : Char → Option Char
  | '"' => some '"'
  | '\\' => some '\\'
  | '/' => some '/'
  | 'b' => some '\x08'
  | 'f' => some '\x0c'
  | 'n' => some '\n'
  | 'r' => some '\r'
  | 't' => some '\t'
  | _ => none

/-- The parts of a string after its opening quote, and what follows the closing one.  There is no
answer when a control character, a bad escape or the end of the text comes first. -/
def readParts : List Char → Option (List StringPart × List Char)
  | [] => none
  | '"' :: rest => some ([], rest)
  | '\\' :: 'u' :: a :: b :: c :: d :: rest =>
    match hexUnit? a b c d, readParts rest with
    | some n, some (parts, rest) => some (.unit n :: parts, rest)
    | _, _ => none
  | '\\' :: c :: rest =>
    match shortEscape? c, readParts rest with
    | some e, some (parts, rest) => some (.char e :: parts, rest)
    | _, _ => none
  | c :: rest =>
    if c.toNat < 0x20 ∨ c = '\\' then none
    else
      match readParts rest with
      | some (parts, rest) => some (.char c :: parts, rest)
      | none => none

/-- The characters that the parts of a string make.  A unit that is the first half of a surrogate
pair must be followed by one that is the second half; neither half stands alone. -/
def joined? : List StringPart → Option (List Char)
  | [] => some []
  | .char c :: rest => (joined? rest).map (c :: ·)
  | .unit high :: .unit low :: rest =>
    if 0xD800 ≤ high ∧ high < 0xDC00 then
      if 0xDC00 ≤ low ∧ low < 0xE000 then
        (joined? rest).map (.ofNat (0x10000 + (high - 0xD800) * 0x400 + (low - 0xDC00)) :: ·)
      else none
    else if 0xDC00 ≤ high ∧ high < 0xE000 then none
    else (joined? (.unit low :: rest)).map (.ofNat high :: ·)
  | .unit n :: rest =>
    if 0xD800 ≤ n ∧ n < 0xE000 then none else (joined? rest).map (.ofNat n :: ·)

/-- The string after an opening quote, without a value when its parts make none, and what follows
the closing quote. -/
def readString (cs : List Char) : Option (Option String × List Char) :=
  (readParts cs).map fun (parts, rest) => ((joined? parts).map .ofList, rest)

/-! ### Values -/

/-- Whether a character may stand between the tokens of a JSON text. -/
def isBlank (c : Char) : Bool :=
  c == ' ' || c == '\n' || c == '\t' || c == '\r'

/-- A text without the blanks in front. -/
def skipBlanks (cs : List Char) : List Char :=
  cs.dropWhile isBlank

end Json

namespace Draft

open Json

mutual

/-- The value at the front of a text, and what follows it when it is complete.  The first argument
bounds the recursion. -/
def readValue : Nat → List Char → Draft × Option (List Char)
  | 0, _ => (.broken, none)
  | fuel + 1, cs =>
    match skipBlanks cs with
    | 'n' :: 'u' :: 'l' :: 'l' :: rest => (.null, some rest)
    | 't' :: 'r' :: 'u' :: 'e' :: rest => (.bool true, some rest)
    | 'f' :: 'a' :: 'l' :: 's' :: 'e' :: rest => (.bool false, some rest)
    | '"' :: rest =>
      match readString rest with
      | some (s, rest) => (.string s, some rest)
      | none => (.broken, none)
    | '[' :: rest =>
      match skipBlanks rest with
      | ']' :: rest => (.array [] true, some rest)
      | rest =>
        let (items, rest) := readItems fuel rest
        (.array items rest.isSome, rest)
    | '{' :: rest =>
      match skipBlanks rest with
      | '}' :: rest => (.object [] true, some rest)
      | rest =>
        let (members, rest) := readMembers fuel rest
        (.object members rest.isSome, rest)
    | cs =>
      match Numeral.read cs with
      | some (x, rest) => (.number x.value?, some rest)
      | none => (.broken, none)

/-- The items of an array from one item on, and what follows the closing bracket. -/
def readItems : Nat → List Char → List Draft × Option (List Char)
  | 0, _ => ([], none)
  | fuel + 1, cs =>
    match readValue fuel cs with
    | (d, none) => ([d], none)
    | (d, some rest) =>
      match skipBlanks rest with
      | ']' :: rest => ([d], some rest)
      | ',' :: rest =>
        let (items, rest) := readItems fuel rest
        (d :: items, rest)
      | _ => ([d], none)

/-- The members of an object from one member on, and what follows the closing brace. -/
def readMembers : Nat → List Char → List (Option String × Draft) × Option (List Char)
  | 0, _ => ([], none)
  | fuel + 1, cs =>
    match skipBlanks cs with
    | '"' :: rest =>
      match readString rest with
      | none => ([], none)
      | some (k, rest) =>
        match skipBlanks rest with
        | ':' :: rest =>
          match readValue fuel rest with
          | (d, none) => ([(k, d)], none)
          | (d, some rest) =>
            match skipBlanks rest with
            | '}' :: rest => ([(k, d)], some rest)
            | ',' :: rest =>
              let (members, rest) := readMembers fuel rest
              ((k, d) :: members, rest)
            | _ => ([(k, d)], none)
        | _ => ([(k, .broken)], none)
    | _ => ([], none)

end

/-- The value at the front of a text, and what follows it when it is complete. -/
def read (cs : List Char) : Draft × Option (List Char) :=
  readValue (2 * cs.length + 2) cs

end Draft

/-- The value of a whole text, which holds one value and blanks around it. -/
def Json.read? (s : String) : Option Json :=
  match Draft.read s.toList with
  | (d, some rest) => if (Json.skipBlanks rest).isEmpty then d.strict? .document else none
  | (_, none) => none

end PropertyGraph
