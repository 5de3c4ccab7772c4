/-!
# Joining query text

A query text is made of pieces with separators between them.  An optional piece is an empty text
when it is absent, and then brings no separator with it.

## Main definitions

* `afterSpace` — an optional piece after a space.
* `words` — optional pieces with one space between those that are there.
* `listed` — a keyword and the items it introduces; nothing when there are none.
-/

namespace PropertyGraph.Cypher

/-- An optional piece after a space; nothing when the piece is empty. -/
def afterSpace (piece : String) : String :=
  if piece.isEmpty then "" else " " ++ piece

/-- The pieces that are not empty, with one space between them. -/
def words (pieces : List String) : String :=
  " ".intercalate (pieces.filter fun piece => !piece.isEmpty)

/-- A keyword, a space and items with a separator between them; nothing when there are no items. -/
def listed (keyword separator : String) (items : List String) : String :=
  if items.isEmpty then "" else keyword ++ " " ++ separator.intercalate items

@[simp] theorem afterSpace_empty : afterSpace "" = "" := rfl

@[simp] theorem listed_nil (keyword separator : String) : listed keyword separator [] = "" := rfl

@[simp] theorem listed_cons (keyword separator item : String) (items : List String) :
    listed keyword separator (item :: items)
      = keyword ++ " " ++ separator.intercalate (item :: items) := rfl

/-! ### Pieces that are there -/

theorem isEmpty_eq_false {s : String} (h : s ≠ "") : s.isEmpty = false := by
  rw [← Bool.not_eq_true, String.isEmpty_iff]
  exact h

theorem afterSpace_of_ne_empty {piece : String} (h : piece ≠ "") :
    afterSpace piece = " " ++ piece := by
  unfold afterSpace
  rw [isEmpty_eq_false h]
  rfl

theorem ne_empty_of_afterSpace {piece : String} (h : afterSpace piece ≠ "") : piece ≠ "" := by
  rintro rfl
  exact h afterSpace_empty

/-- A clause after a space, with what follows it. -/
theorem afterSpace_listed_append (keyword separator item : String) (items : List String)
    (r : String) :
    afterSpace (listed keyword separator (item :: items)) ++ r
      = (" " ++ keyword ++ " ") ++ (separator.intercalate (item :: items) ++ r) := by
  have hne : keyword ++ " " ++ separator.intercalate (item :: items) ≠ "" := by simp
  rw [listed_cons, afterSpace_of_ne_empty hne]
  simp only [String.append_assoc]

/-! ### Words one after another -/

theorem words_empty_cons (pieces : List String) : words ("" :: pieces) = words pieces := rfl

/-- A word that is there, and the others after a space. -/
theorem words_cons {piece : String} (h : piece ≠ "") (pieces : List String) :
    words (piece :: pieces) = piece ++ afterSpace (words pieces) := by
  unfold words
  rw [List.filter_cons_of_pos (by simp [isEmpty_eq_false h])]
  cases hrest : pieces.filter fun piece => !piece.isEmpty with
  | nil => simp
  | cons next rest =>
    have hnext : next ≠ "" := by
      have hmem : next ∈ pieces.filter fun piece => !piece.isEmpty := by
        rw [hrest]
        exact List.mem_cons_self ..
      simpa using (List.mem_filter.mp hmem).2
    have hne : " ".intercalate (next :: rest) ≠ "" := by
      cases rest with
      | nil => simpa using hnext
      | cons other rest => simp [String.intercalate_cons_cons]
    rw [String.intercalate_cons_cons, String.append_assoc, afterSpace_of_ne_empty hne]

theorem afterSpace_words_nil : afterSpace (words []) = "" := rfl

/-- Words after a space: each word that is there has a space of its own. -/
theorem afterSpace_words_cons (piece : String) (pieces : List String) :
    afterSpace (words (piece :: pieces)) = afterSpace piece ++ afterSpace (words pieces) := by
  by_cases h : piece = ""
  · subst h
    rw [words_empty_cons, afterSpace_empty, String.empty_append]
  · have hne : piece ++ afterSpace (words pieces) ≠ "" := by simp [h]
    rw [words_cons h, afterSpace_of_ne_empty hne, afterSpace_of_ne_empty h, String.append_assoc]

end PropertyGraph.Cypher
