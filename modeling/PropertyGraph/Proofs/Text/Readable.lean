/-!
# Readable texts

A value is written into a longer text, and the text goes on behind it.  When only certain words can
come next, the value and the rest of the text may be told apart: two texts of that form are equal
only when the values are equal and the rests are.  A writer with this property is readable in front
of these words.  Writers made of readable parts are readable in turn, so that a whole text is read
part by part, from left to right.

## Main definitions

* `Begins` — a text begins with one of some words.
* `Clash` — no text begins with both of two words.
* `Breaks` — a word ends any run of characters of a kind.
* `Stops` — a list does not begin with an item of a kind.
* `Readable` — a written value can be told from what follows it.

## Main results

* `readable_run` — a run of characters of one kind is readable in front of words that end it.
* `Readable.intercalate` — items with separators are readable when one item is.
* `Readable.optional`, `Readable.flag` — what may be absent is readable behind a word of its own.
-/

namespace PropertyGraph.Text

/-! ### What a text begins with -/

/-- A text begins with one of the given words. -/
def Begins (words : List String) (text : String) : Prop :=
  ∃ w ∈ words, ∃ rest, text = w ++ rest

/-- Neither of two words begins with the other, so that no text begins with both. -/
def Clash (v w : String) : Prop :=
  ¬ v.toList <+: w.toList ∧ ¬ w.toList <+: v.toList

/-- A word begins with a character that is not of the given kind. -/
def Breaks (p : Char → Bool) (word : String) : Prop :=
  (word.toList.head?.any fun c => !p c) = true

instance (v w : String) : Decidable (Clash v w) :=
  inferInstanceAs (Decidable (_ ∧ _))

instance (p : Char → Bool) (word : String) : Decidable (Breaks p word) :=
  inferInstanceAs (Decidable (_ = true))

/-- A list does not begin with an item of the given kind. -/
def Stops {α : Type} (p : α → Bool) (xs : List α) : Prop :=
  ∀ x ∈ xs.head?, p x = false

theorem Clash.append_ne {v w : String} (h : Clash v w) (a b : String) : v ++ a ≠ w ++ b := by
  intro hab
  have hlist := congrArg String.toList hab
  rw [String.toList_append, String.toList_append] at hlist
  rcases List.prefix_or_prefix_of_prefix (List.prefix_append v.toList a.toList)
    (hlist ▸ List.prefix_append w.toList b.toList) with hvw | hwv
  · exact h.1 hvw
  · exact h.2 hwv

namespace Begins

variable {words : List String} {text : String}

theorem of_mem {w : String} (h : w ∈ words) (rest : String) : Begins words (w ++ rest) :=
  ⟨w, h, rest, rfl⟩

/-- A text begins with the word that it is made from. -/
theorem self (w rest : String) : Begins [w] (w ++ rest) :=
  of_mem (List.mem_singleton_self _) rest

/-- A text does not begin with a word that clashes with all that it may begin with. -/
theorem ne_append (h : Begins words text) {v : String} (hv : ∀ w ∈ words, Clash v w)
    (rest : String) : text ≠ v ++ rest := by
  obtain ⟨w, hw, tail, rfl⟩ := h
  exact ((hv w hw).append_ne rest tail).symm

theorem stops (h : Begins words text) {p : Char → Bool} (hp : ∀ w ∈ words, Breaks p w) :
    Stops p text.toList := by
  obtain ⟨w, hw, tail, rfl⟩ := h
  have hbreak : (w.toList.head?.any fun c => !p c) = true := hp w hw
  rw [String.toList_append]
  intro d hd
  cases hlist : w.toList with
  | nil => simp [hlist] at hbreak
  | cons a as =>
    simp only [hlist, List.head?_cons, Option.any_some, Bool.not_eq_true'] at hbreak
    simp only [hlist, List.cons_append, List.head?_cons, Option.mem_some_iff] at hd
    rw [← hd]
    exact hbreak

/-- What a text may begin with includes what it begins with. -/
theorem mono {vs : List String} (h : Begins vs text) (hvs : ∀ v ∈ vs, v ∈ words) :
    Begins words text := by
  obtain ⟨v, hv, tail, rfl⟩ := h
  exact of_mem (hvs v hv) tail

/-- A word that may be absent, in front of a text. -/
theorem flag (h : Begins words text) (word : String) (b : Bool) :
    Begins (word :: words) ((if b then word else "") ++ text) := by
  cases b with
  | false =>
    rw [if_neg Bool.false_ne_true, String.empty_append]
    exact h.mono fun w hw => List.mem_cons_of_mem _ hw
  | true => exact of_mem (List.mem_cons_self ..) text

end Begins

/-- Two runs of items of one kind, each followed by something else. -/
theorem append_inj_of_stops {α : Type} {p : α → Bool} {xs ys r s : List α}
    (hx : ∀ x ∈ xs, p x = true) (hy : ∀ y ∈ ys, p y = true) (hr : Stops p r) (hs : Stops p s)
    (h : xs ++ r = ys ++ s) : xs = ys ∧ r = s := by
  have hnil : ∀ {t : List α}, Stops p t → t.takeWhile p = [] := by
    intro t ht
    cases t with
    | nil => rfl
    | cons c rest => exact List.takeWhile_cons_of_neg (by simp [ht c rfl])
  have hxy : xs = ys := by
    have htake := congrArg (List.takeWhile p) h
    -- the run is what the longest prefix of its kind is on either side
    rw [List.takeWhile_append_of_pos hx, List.takeWhile_append_of_pos hy, hnil hr, hnil hs,
      List.append_nil, List.append_nil] at htake
    exact htake
  subst hxy
  exact ⟨rfl, List.append_cancel_left h⟩

/-! ### Readable writers -/

/-- A written value can be told from what follows it, when that begins with one of some words. -/
def Readable {α : Type} (ok : α → Prop) (write : α → String) (words : List String) : Prop :=
  ∀ ⦃x y : α⦄, ok x → ok y → ∀ ⦃r s : String⦄, Begins words r → Begins words s →
    write x ++ r = write y ++ s → x = y ∧ r = s

/-- **A run of characters of one kind** is readable in front of words that end it. -/
theorem readable_run {p : Char → Bool} (words : List String) (h : ∀ w ∈ words, Breaks p w) :
    Readable (fun s : String => ∀ c ∈ s.toList, p c = true) (fun s => s) words := by
  intro x y hx hy r s hr hs hxy
  have hlist := congrArg String.toList hxy
  rw [String.toList_append, String.toList_append] at hlist
  obtain ⟨hxy, hrs⟩ := append_inj_of_stops hx hy (hr.stops h) (hs.stops h) hlist
  exact ⟨String.toList_inj.mp hxy, String.toList_inj.mp hrs⟩

namespace Readable

variable {α : Type} {ok : α → Prop} {write : α → String} {words : List String}

/-- Equal texts are written for equal values only. -/
theorem eq_of_write_eq (h : Readable ok write words) {w : String} (hw : w ∈ words) {x y : α}
    (hx : ok x) (hy : ok y) (heq : write x = write y) : x = y := by
  have hbegins : Begins words w := ⟨w, hw, "", String.append_empty.symm⟩
  exact (h hx hy hbegins hbegins (by rw [heq])).1

/-- Items with separators between them are readable, when an item is readable in front of the
separator and of what may follow the last item. -/
theorem intercalate {sep : String} (h : Readable ok write (sep :: words))
    (hsep : ∀ w ∈ words, Clash sep w) :
    Readable (fun xs : List α => xs ≠ [] ∧ ∀ x ∈ xs, ok x)
      (fun xs => sep.intercalate (xs.map write)) words := by
  have hnext : ∀ t : String, Begins (sep :: words) (sep ++ t) :=
    fun t => .of_mem (List.mem_cons_self ..) t
  have hlast : ∀ {t : String}, Begins words t → Begins (sep :: words) t :=
    fun ht => ht.mono fun w hw => List.mem_cons_of_mem _ hw
  -- by induction on the first list; the second one has as many items
  intro xs
  induction xs with
  | nil => exact fun ys hx => absurd rfl hx.1
  | cons x xs ih =>
    rintro (_ | ⟨y, ys⟩) hx hy r s hr hs heq
    · exact absurd rfl hy.1
    have hxok : ok x := hx.2 x (List.mem_cons_self ..)
    have hyok : ok y := hy.2 y (List.mem_cons_self ..)
    cases xs with
    | nil =>
      cases ys with
      | nil =>
        simp only [List.map_cons, List.map_nil, String.intercalate_singleton] at heq
        obtain ⟨rfl, hrs⟩ := h hxok hyok (hlast hr) (hlast hs) heq
        exact ⟨rfl, hrs⟩
      | cons y' ys =>
        simp only [List.map_cons, List.map_nil, String.intercalate_singleton,
          String.intercalate_cons_cons, String.append_assoc] at heq
        -- only the second list goes on, with a separator that cannot follow the first one
        obtain ⟨-, hr'⟩ := h hxok hyok (hlast hr) (hnext _) heq
        exact absurd hr' (hr.ne_append hsep _)
    | cons x' xs =>
      cases ys with
      | nil =>
        -- the same with the sides exchanged
        simp only [List.map_cons, List.map_nil, String.intercalate_singleton,
          String.intercalate_cons_cons, String.append_assoc] at heq
        obtain ⟨-, hs'⟩ := h hxok hyok (hnext _) (hlast hs) heq
        exact absurd hs'.symm (hs.ne_append hsep _)
      | cons y' ys =>
        simp only [List.map_cons, String.intercalate_cons_cons, String.append_assoc] at heq
        obtain ⟨rfl, hbehind⟩ := h hxok hyok (hnext _) (hnext _) heq
        have hrest := (String.append_right_inj sep).mp hbehind
        rw [← List.map_cons, ← List.map_cons] at hrest
        obtain ⟨hxy, hrs⟩ := ih
          ⟨List.cons_ne_nil _ _, fun z hz => hx.2 z (List.mem_cons_of_mem _ hz)⟩
          ⟨List.cons_ne_nil _ _, fun z hz => hy.2 z (List.mem_cons_of_mem _ hz)⟩ hr hs hrest
        exact ⟨by rw [hxy], hrs⟩

/-- What may be absent is readable behind a word that nothing else begins with. -/
theorem optional {pre : String} (h : Readable ok write words) (hpre : ∀ w ∈ words, Clash pre w) :
    Readable (fun o : Option α => ∀ x ∈ o, ok x)
      (fun o => o.elim "" fun x => pre ++ write x) words := by
  rintro (_ | x) (_ | y) hx hy r s hr hs heq
  · exact ⟨rfl, by simpa using heq⟩
  · simp only [Option.elim_none, Option.elim_some, String.empty_append,
      String.append_assoc] at heq
    exact absurd heq (hr.ne_append hpre _)
  · simp only [Option.elim_none, Option.elim_some, String.empty_append,
      String.append_assoc] at heq
    exact absurd heq.symm (hs.ne_append hpre _)
  · simp only [Option.elim_some, String.append_assoc] at heq
    obtain ⟨rfl, hrs⟩ := h (hx x rfl) (hy y rfl) hr hs ((String.append_right_inj pre).mp heq)
    exact ⟨rfl, hrs⟩

/-- A word that may be absent is readable when nothing else begins with it. -/
theorem flag (word : String) (words : List String) (h : ∀ w ∈ words, Clash word w) :
    Readable (fun _ : Bool => True) (fun b => if b then word else "") words := by
  rintro (_ | _) (_ | _) _ _ r s hr hs heq
  · exact ⟨rfl, (String.append_right_inj _).mp heq⟩
  · have hcontra : r = word ++ s := by simpa using heq
    exact absurd hcontra (hr.ne_append h s)
  · have hcontra : s = word ++ r := by simpa using heq.symm
    exact absurd hcontra (hs.ne_append h r)
  · exact ⟨rfl, (String.append_right_inj _).mp heq⟩

end Readable

end PropertyGraph.Text
