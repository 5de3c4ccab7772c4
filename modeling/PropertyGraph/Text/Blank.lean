/-!
# Blank characters

A text from outside may be surrounded by blanks: the characters with the Unicode property
White_Space.  `trim` drops them from both ends and keeps the ones inside.

## Main definitions

* `isBlank` — the property White_Space.
* `trim` — a text without the blanks at its two ends.
-/

namespace PropertyGraph.Text

/-- Whether a character has the Unicode property White_Space: the tab, the four line controls after
it, the space, the next-line control, and the blanks of the general punctuation. -/
def isBlank (c : Char) : Bool :=
  let n := c.toNat
  (0x09 ≤ n && n ≤ 0x0D) || n == 0x20 || n == 0x85 || n == 0xA0 || n == 0x1680 ||
    (0x2000 ≤ n && n ≤ 0x200A) || n == 0x2028 || n == 0x2029 || n == 0x202F || n == 0x205F ||
    n == 0x3000

/-- A list of characters without the blanks at its two ends. -/
def trimChars (cs : List Char) : List Char :=
  ((cs.dropWhile isBlank).reverse.dropWhile isBlank).reverse

/-- A text without the blanks at its two ends. -/
def trim (s : String) : String :=
  .ofList (trimChars s.toList)

/-- Every blank of the ASCII range that the core library knows is a blank here. -/
theorem isBlank_of_isWhitespace {c : Char} (h : c.isWhitespace = true) : isBlank c = true := by
  simp only [Char.isWhitespace, Bool.or_eq_true, decide_eq_true_eq] at h
  rcases h with ((rfl | rfl) | rfl) | rfl <;> decide

@[simp] theorem toList_trim (s : String) : (trim s).toList = trimChars s.toList := by
  simp [trim]

end PropertyGraph.Text
