import Mathlib.Data.List.TakeWhile
import PropertyGraph.Text.Blank
import PropertyGraph.Proofs.Text.Readable

/-!
# Blanks around a text

Dropping the blanks at both ends of a text leaves the one part of it that neither begins nor ends
with a blank and has only blanks around it.  So it does not matter how many blanks there were.

## Main definitions

* `Surrounded` — characters that have only blanks around them in a longer list.
* `Trimmed` — such characters that neither begin nor end with a blank.

## Main results

* `trimmed_iff` — **trimming finds the part without blanks around it**, and there is only one.
-/

namespace PropertyGraph.Text

/-! ### Dropping from the front -/

theorem Stops.dropWhile_eq {α : Type} {p : α → Bool} {xs : List α} (h : Stops p xs) :
    xs.dropWhile p = xs := by
  cases xs with
  | nil => rfl
  | cons x rest =>
    have hx : p x = false := h x rfl
    exact List.dropWhile_cons_of_neg (by simp [hx])

theorem stops_dropWhile {α : Type} (p : α → Bool) (xs : List α) : Stops p (xs.dropWhile p) := by
  intro x hx
  have hhead := List.head?_dropWhile_not p xs
  rw [Option.mem_def.mp hx] at hhead
  exact hhead

/-- A list that does not begin with an item of a kind still does not when its end is cut off. -/
theorem Stops.of_append {α : Type} {p : α → Bool} {xs ys : List α} (h : Stops p (xs ++ ys)) :
    Stops p xs := by
  intro x hx
  refine h x ?_
  rw [List.head?_append, Option.mem_def.mp hx]
  rfl

/-! ### Blanks at both ends -/

/-- Characters with only blanks around them. -/
def Surrounded (cs core : List Char) : Prop :=
  ∃ before after, cs = before ++ core ++ after ∧
    (∀ c ∈ before, isBlank c = true) ∧ ∀ c ∈ after, isBlank c = true

/-- Characters with only blanks around them that neither begin nor end with a blank. -/
structure Trimmed (cs core : List Char) : Prop where
  /-- Around them there are only blanks. -/
  surrounded : Surrounded cs core
  /-- They do not begin with a blank. -/
  front : Stops isBlank core
  /-- They do not end with a blank. -/
  back : Stops isBlank core.reverse

variable {cs core more : List Char}

theorem Surrounded.trans (h : Surrounded more cs) (h' : Surrounded cs core) :
    Surrounded more core := by
  obtain ⟨before, after, rfl, hbefore, hafter⟩ := h
  obtain ⟨before', after', rfl, hbefore', hafter'⟩ := h'
  refine ⟨before ++ before', after' ++ after, by simp only [List.append_assoc], ?_, ?_⟩
  · intro c hc
    rcases List.mem_append.mp hc with hc | hc
    · exact hbefore c hc
    · exact hbefore' c hc
  · intro c hc
    rcases List.mem_append.mp hc with hc | hc
    · exact hafter' c hc
    · exact hafter c hc

theorem trimmed_trimChars (cs : List Char) : Trimmed cs (trimChars cs) := by
  -- what is left after the front is cut, read backwards
  have hfront := List.takeWhile_append_dropWhile (p := isBlank) (l := cs)
  have hback := List.takeWhile_append_dropWhile (p := isBlank) (l := (cs.dropWhile isBlank).reverse)
  have hcore : cs.dropWhile isBlank = trimChars cs
      ++ ((cs.dropWhile isBlank).reverse.takeWhile isBlank).reverse := by
    rw [trimChars, ← List.reverse_append, hback, List.reverse_reverse]
  refine ⟨⟨cs.takeWhile isBlank, ((cs.dropWhile isBlank).reverse.takeWhile isBlank).reverse,
    ?_, ?_, ?_⟩, ?_, ?_⟩
  · rw [List.append_assoc, ← hcore, hfront]
  · intro c hc
    exact List.mem_takeWhile_imp hc
  · intro c hc
    exact List.mem_takeWhile_imp (List.mem_reverse.mp hc)
  · have hstops := stops_dropWhile isBlank cs
    rw [hcore] at hstops
    exact hstops.of_append
  · rw [trimChars, List.reverse_reverse]
    exact stops_dropWhile isBlank _

theorem Trimmed.trimChars_eq (h : Trimmed cs core) : trimChars cs = core := by
  obtain ⟨⟨before, after, rfl, hbefore, hafter⟩, hfront, hback⟩ := h
  have hafter' : ∀ c ∈ after.reverse, isBlank c = true :=
    fun c hc => hafter c (List.mem_reverse.mp hc)
  unfold trimChars
  rw [List.append_assoc, List.dropWhile_append_of_pos hbefore]
  cases core with
  | nil =>
    have hnil : after.dropWhile isBlank = [] := by
      rw [← List.append_nil after, List.dropWhile_append_of_pos hafter, List.dropWhile_nil]
    rw [List.nil_append, hnil]
    rfl
  | cons c rest =>
    have hstops : Stops isBlank (c :: rest ++ after) := by
      intro d hd
      exact hfront d hd
    rw [hstops.dropWhile_eq, List.reverse_append, List.dropWhile_append_of_pos hafter',
      hback.dropWhile_eq, List.reverse_reverse]

/-- **Trimming finds the part without blanks around it**, and there is only one. -/
theorem trimmed_iff : Trimmed cs core ↔ core = trimChars cs := by
  constructor
  · intro h
    exact h.trimChars_eq.symm
  · rintro rfl
    exact trimmed_trimChars cs

end PropertyGraph.Text
