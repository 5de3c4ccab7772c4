import PropertyGraph.Json.Writer

/-!
# Scanning for literals

A scanner reads a text from left to right and cuts it at its double-quoted literals.  Outside a
literal only the double quote matters, which opens one; inside, a backslash takes the next character
with it, and the next double quote closes the literal.  A text that ends inside a literal has no
tokens.

## Main definitions

* `Token` — a character outside literals, or a whole literal.
* `Scanner`, `Scanner.step`, `Scanner.feed` — where the scanner stands, and how it moves.
* `scan` — the tokens of a text.
* `Reads` — a piece of text that leads from outside to outside, with its tokens.

## Main results

* `reads_stringChars` — a written JSON string is exactly one literal, whatever the string holds.
-/

namespace PropertyGraph.Text

/-- A piece of a text that has been cut at its literals. -/
inductive Token where
  /-- A character outside literals. -/
  | plain (c : Char)
  /-- A literal, with the characters between its quotes as they stand in the text. -/
  | literal (body : List Char)
  deriving DecidableEq, Repr

/-- Where a scanner stands. -/
inductive Scanner where
  /-- Outside literals. -/
  | outside
  /-- Inside a literal, of which it has read the given characters. -/
  | inside (body : List Char)
  /-- Inside a literal after a backslash. -/
  | escaped (body : List Char)
  deriving DecidableEq, Repr

namespace Scanner

/-- One step of a scanner: where it stands after a character, and the token that is now complete,
if there is one. -/
def step : Scanner → Char → Scanner × List Token
  | .outside, c => if c = '"' then (.inside [], []) else (.outside, [.plain c])
  | .inside body, c =>
    if c = '"' then (.outside, [.literal body])
    else if c = '\\' then (.escaped (body ++ [c]), [])
    else (.inside (body ++ [c]), [])
  | .escaped body, c => (.inside (body ++ [c]), [])

/-- Where a scanner stands after a run of characters, and the tokens completed on the way. -/
def feed : Scanner → List Char → Scanner × List Token
  | s, [] => (s, [])
  | s, c :: cs => ((feed (s.step c).1 cs).1, (s.step c).2 ++ (feed (s.step c).1 cs).2)

@[simp] theorem feed_nil (s : Scanner) : feed s [] = (s, []) := rfl

theorem feed_cons (s : Scanner) (c : Char) (cs : List Char) :
    feed s (c :: cs)
      = ((feed (s.step c).1 cs).1, (s.step c).2 ++ (feed (s.step c).1 cs).2) := rfl

/-- Reading two runs one after the other is reading their concatenation. -/
theorem feed_append (s : Scanner) (cs ds : List Char) :
    feed s (cs ++ ds)
      = ((feed (feed s cs).1 ds).1, (feed s cs).2 ++ (feed (feed s cs).1 ds).2) := by
  induction cs generalizing s with
  | nil => simp
  | cons c cs ih =>
    -- the tokens completed by the first character stay in front
    rw [List.cons_append, feed_cons, ih, feed_cons]
    simp only [List.append_assoc]

end Scanner

/-- The tokens of a text; none when it ends inside a literal. -/
def scan (text : String) : Option (List Token) :=
  match Scanner.feed .outside text.toList with
  | (.outside, tokens) => some tokens
  | _ => none

/-- A piece of text leads a scanner from outside literals to outside literals, and these are the
tokens on the way. -/
def Reads (cs : List Char) (tokens : List Token) : Prop :=
  Scanner.feed .outside cs = (.outside, tokens)

theorem scan_eq_some_iff {text : String} {tokens : List Token} :
    scan text = some tokens ↔ Reads text.toList tokens := by
  unfold scan Reads
  split
  · next us h => rw [h]; simp
  · next h =>
    constructor
    · intro hn; simp at hn
    · intro hr; exact absurd hr (h tokens)

namespace Reads

theorem nil : Reads [] [] := rfl

theorem append {cs ds : List Char} {ts us : List Token} (h : Reads cs ts) (k : Reads ds us) :
    Reads (cs ++ ds) (ts ++ us) := by
  unfold Reads at *
  rw [Scanner.feed_append, h, k]

/-- A piece of text has only one list of tokens. -/
theorem unique {cs : List Char} {ts us : List Token} (h : Reads cs ts) (k : Reads cs us) :
    ts = us := by
  unfold Reads at *
  rw [h] at k
  exact (Prod.mk.inj k).2

/-- A piece of text without a double quote is read character by character. -/
theorem plain {cs : List Char} (h : ∀ c ∈ cs, c ≠ '"') : Reads cs (cs.map .plain) := by
  induction cs with
  | nil => exact nil
  | cons c cs ih =>
    have hc : c ≠ '"' := h c (List.mem_cons_self ..)
    have hr : Reads [c] [.plain c] := by
      simp [Reads, Scanner.feed, Scanner.step, hc]
    exact hr.append (ih fun d hd => h d (List.mem_cons_of_mem _ hd))

end Reads

/-! ### Written strings -/

theorem feed_inside_of_plain {c : Char} (body : List Char) (hq : c ≠ '"') (hb : c ≠ '\\') :
    Scanner.feed (.inside body) [c] = (.inside (body ++ [c]), []) := by
  simp [Scanner.feed, Scanner.step, hq, hb]

theorem feed_inside_of_escape (body : List Char) (c : Char) :
    Scanner.feed (.inside body) ['\\', c] = (.inside (body ++ ['\\', c]), []) := by
  simp [Scanner.feed, Scanner.step]

/-- A digit of a numbered escape neither ends a literal nor takes a character with it. -/
theorem digitChar_ne_quote (n : Nat) : Nat.digitChar n ≠ '"' ∧ Nat.digitChar n ≠ '\\' := by
  rcases Nat.lt_or_ge n 16 with h | h
  · revert n
    decide
  · rw [Nat.digitChar_eq_star.mpr h]
    decide

theorem digitChar_ge (n : Nat) : 0x20 ≤ (Nat.digitChar n).toNat := by
  rcases Nat.lt_or_ge n 16 with h | h
  · revert n
    decide
  · rw [Nat.digitChar_eq_star.mpr h]
    decide

/-- What a written character adds to a literal stays inside the literal. -/
theorem feed_escapedChar (body : List Char) (c : Char) :
    Scanner.feed (.inside body) (Json.escapedChar c)
      = (.inside (body ++ Json.escapedChar c), []) := by
  unfold Json.escapedChar
  -- each short escape is a backslash pair, which the scanner reads as one step
  split
  · exact feed_inside_of_escape body _
  split
  · exact feed_inside_of_escape body _
  split
  · exact feed_inside_of_escape body _
  split
  · exact feed_inside_of_escape body _
  split
  · exact feed_inside_of_escape body _
  split
  · exact feed_inside_of_escape body _
  split
  · exact feed_inside_of_escape body _
  split
  · -- the six characters of a numbered escape: a backslash pair, then four digits
    have h₁ := digitChar_ne_quote (c.toNat / 16)
    have h₂ := digitChar_ne_quote (c.toNat % 16)
    simp [Scanner.feed, Scanner.step, Json.hexPair, h₁.1, h₁.2, h₂.1, h₂.2]
  · next hq hb _ _ _ _ _ _ => exact feed_inside_of_plain body hq hb

/-- The same for the characters of a whole string. -/
theorem feed_escapedChars (body cs : List Char) :
    Scanner.feed (.inside body) (cs.flatMap Json.escapedChar)
      = (.inside (body ++ cs.flatMap Json.escapedChar), []) := by
  induction cs generalizing body with
  | nil => simp
  | cons c cs ih =>
    rw [List.flatMap_cons, Scanner.feed_append, feed_escapedChar, ih]
    simp

/-- **A written string is one literal.**  Whatever the string holds, the scanner is outside again
exactly at the closing quote. -/
theorem reads_stringChars (s : String) :
    Reads (Json.stringChars s) [.literal (s.toList.flatMap Json.escapedChar)] := by
  have hopen : Scanner.feed .outside ['"'] = (.inside [], []) := rfl
  have hclose : ∀ body, Scanner.feed (.inside body) ['"'] = (.outside, [.literal body]) :=
    fun _ => rfl
  have hsplit : Json.stringChars s = ['"'] ++ (s.toList.flatMap Json.escapedChar ++ ['"']) := rfl
  unfold Reads
  rw [hsplit, Scanner.feed_append, hopen, Scanner.feed_append, feed_escapedChars, hclose]
  rfl

/-! ### Control characters -/

/-- A token without a raw control character in its literal. -/
def Token.IsClean : Token → Prop
  | .plain _ => True
  | .literal body => ∀ c ∈ body, 0x20 ≤ c.toNat

/-- A written character is made of characters that are no control characters. -/
theorem toNat_ge_of_mem_escapedChar {c d : Char} (h : d ∈ Json.escapedChar c) :
    0x20 ≤ d.toNat := by
  unfold Json.escapedChar at h
  repeat' split at h
  -- only a numbered escape and a character written as itself are not two fixed characters
  case isFalse.isFalse.isFalse.isFalse.isFalse.isFalse.isFalse.isTrue =>
    simp only [Json.hexPair, List.mem_cons, List.not_mem_nil, or_false] at h
    rcases h with rfl | rfl | rfl | rfl | rfl | rfl
    · decide
    · decide
    · decide
    · decide
    · exact digitChar_ge _
    · exact digitChar_ge _
  case isFalse.isFalse.isFalse.isFalse.isFalse.isFalse.isFalse.isFalse =>
    rw [List.mem_singleton] at h
    subst h
    omega
  all_goals
    simp only [List.mem_cons, List.not_mem_nil, or_false] at h
    rcases h with rfl | rfl <;> decide

/-- The literal of a written string holds no control character. -/
theorem isClean_written (s : String) :
    Token.IsClean (.literal (s.toList.flatMap Json.escapedChar)) := by
  intro d hd
  obtain ⟨c, -, hc⟩ := List.mem_flatMap.mp hd
  exact toNat_ge_of_mem_escapedChar hc

end PropertyGraph.Text
