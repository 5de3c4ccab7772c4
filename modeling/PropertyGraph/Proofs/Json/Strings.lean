import PropertyGraph.Json.Reader
import PropertyGraph.Json.Writer

/-!
# Written strings are read back

A string that has been written as a JSON text is read back as it was, and reading stops exactly
behind its closing quote, whatever follows there.

## Main definitions

* `Json.writtenPart` — how the reader sees one written character.

## Main results

* `Json.readString_written` — **a written string is read back**.
* `Json.stringChars_append_inj` — a written string can be told from what follows it.
-/

namespace PropertyGraph.Json

/-- How the reader sees one written character: as itself, unless it was written with a numbered
escape. -/
def writtenPart (c : Char) : StringPart :=
  if c = '\x08' ∨ c = '\x0c' ∨ c = '\n' ∨ c = '\r' ∨ c = '\t' then .char c
  else if c.toNat < 0x20 then .unit c.toNat
  else .char c

/-- The digits of a numbered escape are read back. -/
theorem hexUnit?_hexPair {n : Nat} (h : n < 0x20) :
    hexUnit? '0' '0' (Nat.digitChar (n / 16)) (Nat.digitChar (n % 16)) = some n := by
  revert n
  decide

/-- A character other than the quote and the backslash that is no control character is a part of
its own. -/
theorem readParts_cons {c : Char} (hq : c ≠ '"') (hb : c ≠ '\\') (hc : ¬ c.toNat < 0x20)
    {rest r : List Char} {parts : List StringPart} (h : readParts rest = some (parts, r)) :
    readParts (c :: rest) = some (.char c :: parts, r) := by
  rw [readParts]
  · simp [hb, hc, h]
  · exact hq
  · intro a b d e tail hcontra _
    exact hb hcontra
  · intro d tail hcontra _
    exact hb hcontra

/-- **One step of reading back**: a written character is read as its part. -/
theorem readParts_escapedChar (c : Char) {rest r : List Char} {parts : List StringPart}
    (h : readParts rest = some (parts, r)) :
    readParts (escapedChar c ++ rest) = some (writtenPart c :: parts, r) := by
  unfold escapedChar
  split
  · next hc => subst hc; simp [readParts, shortEscape?, h, writtenPart]
  split
  · next hc => subst hc; simp [readParts, shortEscape?, h, writtenPart]
  split
  · next hc => subst hc; simp [readParts, shortEscape?, h, writtenPart]
  split
  · next hc => subst hc; simp [readParts, shortEscape?, h, writtenPart]
  split
  · next hc => subst hc; simp [readParts, shortEscape?, h, writtenPart]
  split
  · next hc => subst hc; simp [readParts, shortEscape?, h, writtenPart]
  split
  · next hc => subst hc; simp [readParts, shortEscape?, h, writtenPart]
  split
  · next hbs hff hlf hcr htab hcontrol =>
    have hpart : writtenPart c = .unit c.toNat := by
      simp [writtenPart, hbs, hff, hlf, hcr, htab, hcontrol]
    rw [hpart]
    simp [readParts, hexPair, hexUnit?_hexPair hcontrol, h]
  · next hq hb hbs hff hlf hcr htab hcontrol =>
    have hpart : writtenPart c = .char c := by
      simp [writtenPart, hbs, hff, hlf, hcr, htab, hcontrol]
    rw [hpart]
    exact readParts_cons hq hb hcontrol h

/-- The same for the characters of a whole string, up to the closing quote. -/
theorem readParts_written (cs rest : List Char) :
    readParts (cs.flatMap escapedChar ++ '"' :: rest) = some (cs.map writtenPart, rest) := by
  induction cs with
  | nil => simp [readParts]
  | cons c cs ih =>
    rw [List.flatMap_cons, List.append_assoc, List.map_cons]
    exact readParts_escapedChar c ih

/-- A unit that is no half of a surrogate pair stands for its character. -/
theorem joined?_unit {n : Nat} (h : n < 0xD800) (parts : List StringPart) :
    joined? (.unit n :: parts) = (joined? parts).map (.ofNat n :: ·) := by
  have hhigh : ¬(0xD800 ≤ n ∧ n < 0xDC00) := by omega
  have hlow : ¬(0xDC00 ≤ n ∧ n < 0xE000) := by omega
  have hhalf : ¬(0xD800 ≤ n ∧ n < 0xE000) := by omega
  cases parts with
  | nil => simp [joined?, hhalf]
  | cons part parts =>
    cases part with
    | char c => simp [joined?, hhalf]
    | unit low => rw [joined?, if_neg hhigh, if_neg hlow]

/-- The part of a written character makes this character. -/
theorem joined?_writtenPart (c : Char) (parts : List StringPart) :
    joined? (writtenPart c :: parts) = (joined? parts).map (c :: ·) := by
  unfold writtenPart
  split
  · rfl
  split
  · next hcontrol =>
    rw [joined?_unit (by omega), Char.ofNat_toNat]
  · rfl

theorem joined?_written (cs : List Char) : joined? (cs.map writtenPart) = some cs := by
  induction cs with
  | nil => rfl
  | cons c cs ih =>
    rw [List.map_cons, joined?_writtenPart, ih]
    rfl

/-- **A written string is read back**, and reading stops behind its closing quote. -/
theorem readString_written (s : String) (rest : List Char) :
    readString (s.toList.flatMap escapedChar ++ '"' :: rest) = some (some s, rest) := by
  unfold readString
  rw [readParts_written]
  simp [joined?_written]

/-- A written string can be told from what follows it, whatever that is. -/
theorem stringChars_append_inj {s t : String} {r u : List Char}
    (h : stringChars s ++ r = stringChars t ++ u) : s = t ∧ r = u := by
  have hquote : ∀ (v : String) (rest : List Char), stringChars v ++ rest
      = '"' :: (v.toList.flatMap escapedChar ++ '"' :: rest) := by
    intro v rest
    simp [stringChars]
  rw [hquote, hquote] at h
  have hread := congrArg readString (List.cons.inj h).2
  rw [readString_written, readString_written] at hread
  simp only [Option.some.injEq, Prod.mk.injEq] at hread
  exact hread

end PropertyGraph.Json
