import PropertyGraph.Proofs.Decode.Identities

/-!
# The spellings of an identity

One identity may be written in many ways: as an integer, as an object with its two words, where the
lower word comes with or without its sign, and, when it is not negative, as a text of digits with
zeros in front of them and blanks around.  All of them are read as this identity, from a value and
from a text, and it is written back as an integer.

## Main definitions

* `wordsObject` — the object with two words.
* `Spelling` — the ways to write an identity.

## Main results

* `Spelling.identityFrom` — each spelling gives the identity.
* `words_and_spellings` — **each identity has exactly one pair of words**, in the order of
  identities, and all its spellings are read as it.
-/

namespace PropertyGraph.Decode

open Identity Text

variable {x : Int64} {v : Json}

/-- The object with two words. -/
def wordsObject (low high : Int) : Json :=
  .object [("low", .number (.int low)), ("high", .number (.int high))]

/-- The ways to write an identity. -/
inductive Spelling (x : Int64) : Json → Prop where
  /-- As an integer. -/
  | integer : Spelling x (.number (.int x.toInt))
  /-- As its two words, both with sign. -/
  | signed {low high : Int32} (h : (ofWords low high).val = x) :
    Spelling x (wordsObject low.toInt high.toInt)
  /-- As its two words, the lower one without sign. -/
  | unsigned {low high : Int32} (h : (ofWords low high).val = x) :
    Spelling x (wordsObject (low.toInt % 2 ^ 32) high.toInt)
  /-- As its digits, with zeros in front of them and blanks around, when it is not negative. -/
  | digits {before after : String} (zeros : Nat) (hx : 0 ≤ x.toInt)
    (hbefore : ∀ c ∈ before.toList, isBlank c = true)
    (hafter : ∀ c ∈ after.toList, isBlank c = true) :
    Spelling x (.string
      (before ++ (.ofList (List.replicate zeros '0') ++ Decimal.text x.toInt) ++ after))

theorem wordsFrom_wordsObject (low high : Int64) :
    WordsFrom (wordsObject low.toInt high.toInt) low high :=
  ⟨_, rfl, List.mem_cons_self .., List.mem_cons_of_mem _ (List.mem_cons_self ..)⟩

/-- Two words give the identity that they make; the lower one counts without its sign. -/
theorem identityFrom_wordsObject {low high : Int32} {n : Int} (hn : n % 2 ^ 32 = low.toInt % 2 ^ 32)
    (hfits : LowFits n) : IdentityFrom (wordsObject n high.toInt) (ofWords low high) := by
  obtain ⟨hmin, hmax⟩ := hfits
  have hlow : (Int64.ofInt n).toInt = n := Int64.toInt_ofInt_of_le (by omega) (by omega)
  have hhigh : high.toInt64.toInt = high.toInt := Int32.toInt_toInt64 high
  have hhighMin := Int32.le_toInt high
  have hhighMax := Int32.toInt_lt high
  have hwords := wordsFrom_wordsObject (.ofInt n) high.toInt64
  rw [hlow, hhigh] at hwords
  refine .words hwords ?_ ?_ ?_
  · rw [hlow]
    exact ⟨hmin, hmax⟩
  · rw [hhigh]
    exact ⟨by omega, by omega⟩
  · rw [toInt_ofWords, hlow, hhigh, hn]

/-- **Each spelling gives the identity.** -/
theorem Spelling.identityFrom (h : Spelling x v) : IdentityFrom v ⟨x⟩ := by
  cases h with
  | integer => exact .integer x
  | @signed low high h =>
    subst h
    have hmin := Int32.le_toInt low
    have hmax := Int32.toInt_lt low
    exact identityFrom_wordsObject rfl ⟨by omega, by omega⟩
  | @unsigned low high h =>
    subst h
    have hmod : low.toInt % 2 ^ 32 % 2 ^ 32 = low.toInt % 2 ^ 32 := by omega
    exact identityFrom_wordsObject hmod ⟨by omega, by omega⟩
  | @digits before after zeros hx hbefore hafter =>
    have htext : Names (text ⟨x⟩) ⟨x⟩ := names_text hx
    have hdigits : ∀ c ∈ (text ⟨x⟩).toList, c.isDigit = true := by
      intro c hc
      rw [toList_text_of_nonneg hx] at hc
      exact Decimal.isDigit_of_mem_ofNat hc
    have hblanks := htext.padded (.blanks before _ after hbefore hafter)
    have hzeros := hblanks.padded (.zeros before _ after zeros hbefore hafter hdigits)
    exact .text (parse_of_names hzeros)

/-! ### Texts of spellings -/

theorem Spelling.namesDistinct (h : Spelling x v) : v.namesDistinct = true := by
  cases h <;> rfl

theorem Spelling.depth_lt (h : Spelling x v) : v.depth < 128 := by
  cases h <;> simp [wordsObject, Json.depth, Json.membersDepth]

theorem fits64_wordsObject {low high : Int} (hlow : (Json.number (.int low)).fits64 = true)
    (hhigh : (Json.number (.int high)).fits64 = true) :
    (wordsObject low high).fits64 = true := by
  show (Json.allNumbers _ (.number (.int low)) && (Json.allNumbers _ (.number (.int high)) && true))
    = true
  rw [Bool.and_true, Bool.and_eq_true]
  exact ⟨hlow, hhigh⟩

theorem Spelling.fits64 (h : Spelling x v) : v.fits64 = true := by
  cases h with
  | integer => exact Json.fits64_int (Int64.le_toInt x) (Int64.toInt_lt x)
  | @signed low high =>
    have hlowMin := Int32.le_toInt low
    have hlowMax := Int32.toInt_lt low
    have hhighMin := Int32.le_toInt high
    have hhighMax := Int32.toInt_lt high
    exact fits64_wordsObject (Json.fits64_int (by omega) (by omega))
      (Json.fits64_int (by omega) (by omega))
  | @unsigned low high =>
    have hhighMin := Int32.le_toInt high
    have hhighMax := Int32.toInt_lt high
    exact fits64_wordsObject (Json.fits64_int (by omega) (by omega))
      (Json.fits64_int (by omega) (by omega))
  | digits => rfl

/-- **Each identity has exactly one pair of words.**  Its number is the upper word times `2 ^ 32`
and the lower word without sign, and identities are in the order of their words.  So all spellings
of an identity are read as the same identity, from a value and from a text, and it is written as an
integer. -/
theorem words_and_spellings :
    (∀ low high : Int32, (ofWords low high).toInt = high.toInt * 2 ^ 32 + low.toInt % 2 ^ 32 ∧
      -2 ^ 63 ≤ high.toInt * 2 ^ 32 + low.toInt % 2 ^ 32 ∧
      high.toInt * 2 ^ 32 + low.toInt % 2 ^ 32 ≤ 2 ^ 63 - 1) ∧
    (Function.Bijective fun words : Int32 × Int32 => (ofWords words.1 words.2).val) ∧
    (∀ low high low' high' : Int32,
      compare (ofWords low high) (ofWords low' high') = .lt ↔
        high.toInt < high'.toInt ∨
          high = high' ∧ low.toInt % 2 ^ 32 < low'.toInt % 2 ^ 32) ∧
    ∀ (x : Int64) (v : Json), Spelling x v →
      ofValue identity v = .ok ⟨x⟩ ∧ ofText identity v.text = .ok ⟨x⟩ ∧
      (Identity.mk x).toJson = .number (.int x.toInt) := by
  refine ⟨fun low high => ?_, bijective_ofWords, compare_ofWords_eq_lt_iff, fun x v h => ?_⟩
  · have hnumber := toInt_ofWords low high
    obtain ⟨hmin, hmax⟩ := (ofWords low high).toInt_bounds
    exact ⟨hnumber, by omega, by omega⟩
  · have hvalue : ofValue identity v = .ok ⟨x⟩ := h.identityFrom.ofValue_eq h.namesDistinct
    have htext := alike_ofText h.fits64 h.depth_lt isUniform_identity
    exact ⟨hvalue, (htext _).mpr hvalue, rfl⟩

/-- Minus one as two words, of which the lower one comes without sign, and seven with zeros and
blanks. -/
theorem words_and_spellings_minusOne_seven :
    Spelling (-1) (wordsObject 0xFFFFFFFF (-1)) ∧
    ofValue identity (wordsObject 0xFFFFFFFF (-1)) = .ok ⟨-1⟩ ∧
    Spelling 7 (.string ("\u2003" ++ (.ofList (List.replicate 2 '0') ++ Decimal.text 7) ++ "\n")) ∧
    ofText identity
      (Json.string ("\u2003" ++ (.ofList (List.replicate 2 '0') ++ Decimal.text 7) ++ "\n")).text
      = .ok ⟨7⟩ := by
  have hnumber : (ofWords (-1) (-1)).val = -1 := by decide
  have hwords : Spelling (-1) (wordsObject 0xFFFFFFFF (-1)) := .unsigned hnumber
  have hbefore : "\u2003".toList.all isBlank = true := by decide
  have hafter : "\n".toList.all isBlank = true := by decide
  have hdigits : Spelling 7
      (.string ("\u2003" ++ (.ofList (List.replicate 2 '0') ++ Decimal.text 7) ++ "\n")) :=
    .digits 2 (by decide) (List.all_eq_true.mp hbefore) (List.all_eq_true.mp hafter)
  obtain ⟨-, -, -, hspelling⟩ := words_and_spellings
  exact ⟨hwords, (hspelling _ _ hwords).1, hdigits, (hspelling _ _ hdigits).2.1⟩

end PropertyGraph.Decode
