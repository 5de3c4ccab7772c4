import PropertyGraph.Decode.Basic
import PropertyGraph.Json.Reader

/-!
# Documents and values

A decoder runs on a text or on a value in hand.  A text is a document: blanks around one value.
What follows the value matters only when the value itself could be decoded.

## Main definitions

* `ofText` — what a decoder takes from a text.
* `ofValue` — what a decoder takes from a value in hand.
-/

namespace PropertyGraph.Decode

/-- What a decoder takes from a text. -/
def ofText {α : Type} (decode : Decoder α) (s : String) : Except Fault α :=
  let (d, rest) := Draft.read s.toList
  match decode .document d with
  | .error fault => .error fault
  | .ok x =>
    if rest.any fun rest => (Json.skipBlanks rest).isEmpty then .ok x else .error .malformed

/-- What a decoder takes from a value in hand. -/
def ofValue {α : Type} (decode : Decoder α) (v : Json) : Except Fault α :=
  decode .tree (.ofJson v)

end PropertyGraph.Decode
