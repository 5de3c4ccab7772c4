import PropertyGraph.Proofs.Text.Scanner
import PropertyGraph.Proofs.Cypher.Respect

/-!
# Strings stay inside their literals

A string in a property value is written as a literal of the query text.  Whatever the string holds,
it cannot end that literal early or open another one: two commands that differ in nothing but the
contents of such strings have texts that differ in nothing but the contents of their literals.

## Main definitions

* `Token.mark`, `outline` — a text with every literal replaced by one marker.
* `SameOutline` — two texts that become equal when their literals are replaced.

## Main results

* `textRelation_sameOutline` — query text respects that relation.
* `Command.literals_contained` — **strings cannot break out of their literals**, for every command.
-/

namespace PropertyGraph

namespace Text

/-- A token with its literal replaced: the character itself, or the marker `none`. -/
def Token.mark : Token → Option Char
  | .plain c => some c
  | .literal _ => none

/-- A text with every literal replaced by the marker `none`. -/
def outline (tokens : List Token) : List (Option Char) :=
  tokens.map Token.mark

theorem outline_append (ts us : List Token) : outline (ts ++ us) = outline ts ++ outline us :=
  List.map_append

/-- A text that is read to its end, with no control character in a literal, and its outline. -/
def HasOutline (s : String) (o : List (Option Char)) : Prop :=
  ∃ tokens, Reads s.toList tokens ∧ (∀ t ∈ tokens, t.IsClean) ∧ outline tokens = o

/-- A text without a double quote is its own outline. -/
theorem hasOutline_of_notMem {s : String} (h : '"' ∉ s.toList) :
    HasOutline s (s.toList.map some) := by
  refine ⟨s.toList.map .plain, Reads.plain fun c hc hq => h (hq ▸ hc), ?_, ?_⟩
  · intro t ht
    obtain ⟨c, -, rfl⟩ := List.mem_map.mp ht
    exact trivial
  · unfold outline
    rw [List.map_map]
    rfl

/-- The outline of a written string is the marker. -/
theorem hasOutline_quoted (s : String) : HasOutline (Cypher.quoted s) [none] := by
  refine ⟨[.literal (s.toList.flatMap Json.escapedChar)], ?_, ?_, rfl⟩
  · unfold Cypher.quoted
    rw [String.toList_ofList]
    exact reads_stringChars s
  · intro t ht
    rw [List.mem_singleton.mp ht]
    exact isClean_written s

theorem HasOutline.append {a b : String} {o p : List (Option Char)} (ha : HasOutline a o)
    (hb : HasOutline b p) : HasOutline (a ++ b) (o ++ p) := by
  obtain ⟨ts, hts, hct, rfl⟩ := ha
  obtain ⟨us, hus, hcu, rfl⟩ := hb
  refine ⟨ts ++ us, ?_, ?_, outline_append ts us⟩
  · rw [String.toList_append]
    exact hts.append hus
  · -- a literal of the whole is a literal of one of the parts
    intro t ht
    rcases List.mem_append.mp ht with ht | ht
    · exact hct t ht
    · exact hcu t ht

/-- A text has only one outline. -/
theorem HasOutline.unique {s : String} {o p : List (Option Char)} (ho : HasOutline s o)
    (hp : HasOutline s p) : o = p := by
  obtain ⟨ts, hts, -, rfl⟩ := ho
  obtain ⟨us, hus, -, rfl⟩ := hp
  rw [hts.unique hus]

/-- Two texts that become equal when every literal is replaced by one marker.  They are empty
together. -/
def SameOutline (a b : String) : Prop :=
  (a = "" ↔ b = "") ∧ ∃ o, HasOutline a o ∧ HasOutline b o

theorem sameOutline_of_notMem {s : String} (h : '"' ∉ s.toList) : SameOutline s s :=
  ⟨Iff.rfl, _, hasOutline_of_notMem h, hasOutline_of_notMem h⟩

theorem SameOutline.append {a b c d : String} (h : SameOutline a b) (k : SameOutline c d) :
    SameOutline (a ++ c) (b ++ d) := by
  obtain ⟨hempty, o, ha, hb⟩ := h
  obtain ⟨kempty, p, hc, hd⟩ := k
  refine ⟨?_, o ++ p, ha.append hc, hb.append hd⟩
  rw [String.append_eq_empty_iff, String.append_eq_empty_iff, hempty, kempty]

theorem sameOutline_quoted (s t : String) : SameOutline (Cypher.quoted s) (Cypher.quoted t) :=
  ⟨iff_of_false (Cypher.quoted_ne_empty s) (Cypher.quoted_ne_empty t), [none],
    hasOutline_quoted s, hasOutline_quoted t⟩

end Text

open Text

/-- **Query text respects outlines.** -/
theorem textRelation_sameOutline : Cypher.TextRelation SameOutline where
  empty_iff h := h.1
  append := SameOutline.append
  bland h := sameOutline_of_notMem fun hq => (h _ hq).1 rfl
  quoted := sameOutline_quoted
  member k := (sameOutline_of_notMem (by decide)).append (sameOutline_quoted k k)
  braces := sameOutline_of_notMem (by decide)
  opening := sameOutline_of_notMem (by decide)

namespace Command

theorem sameOutline_placeholders {m : Properties} (h : ∀ k ∈ m.keys, '"' ∉ k.toList) :
    SameOutline (Cypher.placeholders m) (Cypher.placeholders m) := by
  unfold Cypher.placeholders
  split
  · exact textRelation_sameOutline.empty
  · refine textRelation_sameOutline.braced (List.forall₂_same.mpr fun t ht => ?_)
    obtain ⟨k, hk, rfl⟩ := List.mem_map.mp ht
    have hname := sameOutline_of_notMem (h k hk)
    exact ((hname.append (sameOutline_of_notMem (by decide))).append hname).append
      (sameOutline_of_notMem (by decide))

/-- A command and its skeleton have texts with one outline. -/
theorem sameOutline_skeleton (c : Command) (hnames : ∀ s ∈ c.names, '"' ∉ s.toList) :
    SameOutline c.statement.text c.skeleton.statement.text := by
  apply textRelation_sameOutline.statement
  · intro s hs
    exact sameOutline_of_notMem (hnames s hs)
  · -- what is sent leaves its names in the text, and they are names of the command
    intro m hm
    apply sameOutline_placeholders
    intro k hk
    apply hnames k
    apply mem_names_of_mem_sentKeys
    rw [sentKeys, hm]
    exact hk

/-- **Strings cannot break out of their literals.**  Take two commands that are equal except for
the contents of strings inside their property values, and whose names hold no double quote.  Both
texts are read to their end, so that every literal is closed; no literal holds a control character;
and the texts become equal when every literal is replaced by one marker. -/
theorem literals_contained (c d : Command) (hcd : c.skeleton = d.skeleton)
    (hnames : ∀ s ∈ c.names, '"' ∉ s.toList) :
    ∃ ts us, scan c.statement.text = some ts ∧ scan d.statement.text = some us ∧
      (∀ t ∈ ts, t.IsClean) ∧ (∀ u ∈ us, u.IsClean) ∧ outline ts = outline us := by
  have hdnames : ∀ s ∈ d.names, '"' ∉ s.toList := by
    intro s hs
    rw [← names_skeleton, ← hcd, names_skeleton] at hs
    exact hnames s hs
  -- both texts have the outline of the text of the common skeleton
  obtain ⟨-, o, hc, hc'⟩ := sameOutline_skeleton c hnames
  obtain ⟨-, p, hd, hd'⟩ := sameOutline_skeleton d hdnames
  rw [← hcd] at hd'
  have hop : o = p := hc'.unique hd'
  obtain ⟨ts, hts, hcleants, rfl⟩ := hc
  obtain ⟨us, hus, hcleanus, rfl⟩ := hd
  exact ⟨ts, us, scan_eq_some_iff.mpr hts, scan_eq_some_iff.mpr hus, hcleants, hcleanus, hop⟩

/-- Changes relationships from a named person; the name stands in a filter at the top, in an array
and inside an object. -/
def noting (name : String) : Command :=
  let tags : Json := .array [.string name, .object [("\x7bx\x7d", .string name)]]
  .setRelations
    { source := .selected
        { labels := ["Person"], filter := some (.ofList [("name", .string name)]) }
      relType := some "KNOWS"
      filter := some (.ofList [("tags", tags)]) }
    (.ofList [("note", .string name)]) .merge

/-- A name made of quotes, backslashes, line ends and query words does no more than a plain one. -/
theorem literals_contained_noting :
    (noting "\"\x7d) DETACH DELETE n //\n\\").skeleton = (noting "Ann").skeleton ∧
    (∀ s ∈ (noting "\"\x7d) DETACH DELETE n //\n\\").names, '"' ∉ s.toList) ∧
    ∃ ts us, scan (noting "\"\x7d) DETACH DELETE n //\n\\").statement.text = some ts ∧
      scan (noting "Ann").statement.text = some us ∧
      (∀ t ∈ ts, t.IsClean) ∧ (∀ u ∈ us, u.IsClean) ∧ outline ts = outline us :=
  ⟨rfl, by decide, literals_contained _ _ rfl (by decide)⟩

end Command

end PropertyGraph
