import PropertyGraph.Cypher.Properties
import PropertyGraph.Proofs.Entries
import PropertyGraph.Proofs.Json.Names
import PropertyGraph.Proofs.Json.ReadBack

/-!
# Literals are read back

Properties that are written with their values can be read back from the text: each literal is the
JSON text of its value, and a reader that starts at a literal, with the whole rest of the text in
front of it, finds the value and stops where the literal ends.

## Main definitions

* `leadingText`, `trailingText` — the text of properties before and after a literal.
* `ReadBack` — properties whose literals are read back.

## Main results

* `literals_eq_append` — a literal in the text of all properties.
* `read_literal` — what a reader finds that starts at a literal.
* `literals_read_back` — **literals are faithful**, and so is the order of the properties.
-/

namespace PropertyGraph.Cypher

open Json Text

/-- The text of properties up to a literal: the entries before it, and its name. -/
def leadingText (before : List (String × Json)) (name : String) : String :=
  "\x7b " ++ String.join (before.map fun e => literal e.1 e.2 ++ ", ") ++ (name ++ ": ")

/-- The text of properties behind a literal: the entries after it. -/
def trailingText (after : List (String × Json)) : String :=
  String.join (after.map fun e => ", " ++ literal e.1 e.2) ++ " \x7d"

variable {m : Properties} {before after : List (String × Json)} {name : String} {v : Json}

/-! ### Where a literal stands -/

/-- The items from one item on, each other one after a separator. -/
theorem intercalate_cons_eq_join (sep item : String) (items : List String) :
    sep.intercalate (item :: items) = item ++ String.join (items.map (sep ++ ·)) := by
  induction items generalizing item with
  | nil => simp
  | cons next items ih =>
    rw [String.intercalate_cons_cons, ih, List.map_cons, String.join_cons]
    simp only [String.append_assoc]

/-- An item among others: those before it have a separator behind them, those after it in front. -/
theorem intercalate_append_cons (sep item : String) (items items' : List String) :
    sep.intercalate (items ++ item :: items')
      = String.join (items.map (· ++ sep)) ++ item ++ String.join (items'.map (sep ++ ·)) := by
  induction items with
  | nil => simp [intercalate_cons_eq_join]
  | cons first items ih =>
    have hne : items ++ item :: items' ≠ [] := by simp
    rw [List.cons_append, String.intercalate_cons_of_ne_nil hne, ih, List.map_cons,
      String.join_cons]
    simp only [String.append_assoc]

theorem literals_eq (h : m ≠ .empty) :
    literals m = "\x7b " ++ ", ".intercalate (m.entries.map fun e => e.1 ++ ": " ++ e.2.text)
      ++ " \x7d" := by
  have hm : ¬m.isEmpty = true := fun he => h ((Properties.isEmpty_iff m).mp he)
  unfold literals
  rw [if_neg hm]
  rfl

/-- **A literal in the text of all properties.** -/
theorem literals_eq_append (h : m.entries = before ++ (name, v) :: after) :
    literals m = leadingText before name ++ v.text ++ trailingText after := by
  have hne : m ≠ .empty := by
    rintro rfl
    cases before <;> cases h
  rw [literals_eq hne, h, List.map_append, List.map_cons, intercalate_append_cons, List.map_map,
    List.map_map]
  simp only [leadingText, trailingText, literal, Function.comp_def, String.append_assoc]

/-! ### Reading from a literal on -/

/-- Neither a comma nor a blank goes on with a number. -/
theorem stops_trailingText (after : List (String × Json)) :
    Stops Numeral.continues (trailingText after).toList := by
  unfold trailingText
  cases after with
  | nil => exact Begins.stops (.of_mem (List.mem_singleton_self " \x7d") "") (by decide)
  | cons e after =>
    rw [List.map_cons, String.join_cons, String.append_assoc, String.append_assoc]
    exact (Begins.self ", " _).stops (by decide)

/-- **What a reader finds that starts at a literal**: the value, and then the rest of the text. -/
theorem read_literal (hfits : v.fits64 = true) (hdepth : v.depth < 128)
    (after : List (String × Json)) :
    ∃ d, Draft.read (v.text ++ trailingText after).toList
        = (d, some (trailingText after).toList) ∧ d.strict? .document = some v := by
  refine ⟨.ofJson v, ?_, Draft.strict?_ofJson (Nat.le_of_lt_succ hdepth)⟩
  rw [String.toList_append, Json.toList_text]
  exact read_chars hfits (stops_trailingText after)

/-- Properties whose literals are read back. -/
structure ReadBack (m : Properties) : Prop where
  /-- They are written between braces, with a comma between them, each as its name and the text of
  its value. -/
  form : literals m = "\x7b " ++ ", ".intercalate (m.entries.map fun e => e.1 ++ ": " ++ e.2.text)
    ++ " \x7d"
  /-- This text, on its own, is read as the value again, also by a reader that keeps only one member
  of each name. -/
  alone : ∀ e ∈ m.entries, Json.read? e.2.text = some e.2 ∧
    (e.2.namesDistinct = true → (Json.read? e.2.text).map Json.collapse = some e.2)
  /-- It is read as the value also with the rest of the properties behind it, where the reader
  stops. -/
  inPlace : ∀ before name v after, m.entries = before ++ (name, v) :: after →
    literals m = leadingText before name ++ v.text ++ trailingText after ∧
    ∃ d, Draft.read (v.text ++ trailingText after).toList
      = (d, some (trailingText after).toList) ∧ d.strict? .document = some v

/-- **Literals are faithful.**  Each literal is read as its value again, on its own and in its
place.  The order of properties that are inserted one after another is the one in which their names
came first, and their values are those that came last. -/
theorem literals_read_back :
    (∀ m : Properties, m ≠ .empty → (∀ e ∈ m.entries, e.2.fits64 = true ∧ e.2.depth < 128) →
      ReadBack m) ∧
    ∀ pairs : List (String × Json),
      (Properties.inserted pairs).keys = (pairs.map Prod.fst).eraseDups ∧
      ∀ name, Entries.get? name (Properties.inserted pairs).entries
        = Entries.get? name pairs.reverse := by
  refine ⟨fun m hne h => ⟨literals_eq hne, fun e he => ?_, fun before name v after hentries => ?_⟩,
    fun pairs => ?_⟩
  · obtain ⟨hfits, hdepth⟩ := h e he
    have hread : Json.read? e.2.text = some e.2 := read?_text hfits hdepth
    refine ⟨hread, fun hnames => ?_⟩
    rw [hread, Option.map_some, collapse_of_namesDistinct hnames]
  · have hmem : (name, v) ∈ m.entries := by
      rw [hentries]
      exact List.mem_append_right before (List.mem_cons_self ..)
    obtain ⟨hfits, hdepth⟩ := h (name, v) hmem
    exact ⟨literals_eq_append hentries, read_literal hfits hdepth after⟩
  · rw [Properties.keys, Properties.entries_inserted]
    exact ⟨Entries.keys_ofList pairs, fun name => Entries.get?_ofList name pairs⟩

/-- Properties of which one is inserted twice, with quotes, braces and commas in the values. -/
def trickyProperties : Properties :=
  .inserted [
    ("name", .null),
    ("tags", .array [.number (.int (-5)), .object [("z", .string "\x7d, a: 1"), ("a", .array [])]]),
    ("name", .string "say \"hi\"\n")]

/-- Quotes, braces and commas in the values do not mislead a reader. -/
theorem literals_read_back_trickyProperties :
    trickyProperties ≠ .empty ∧
    (∀ e ∈ trickyProperties.entries, e.2.fits64 = true ∧ e.2.depth < 128) ∧
    Json.read? (Json.string "say \"hi\"\n").text = some (.string "say \"hi\"\n") ∧
    trickyProperties.keys = ["name", "tags"] := by
  have hne : trickyProperties ≠ .empty := by
    intro he
    have hlength := congrArg (fun m => m.entries.length) he
    exact absurd hlength (by decide)
  have h : ∀ e ∈ trickyProperties.entries, e.2.fits64 = true ∧ e.2.depth < 128 := by decide
  obtain ⟨hback, horder⟩ := literals_read_back
  refine ⟨hne, h, ((hback trickyProperties hne h).alone ("name", .string "say \"hi\"\n") ?_).1,
    (horder _).1⟩
  exact List.mem_cons_self ..

end PropertyGraph.Cypher
