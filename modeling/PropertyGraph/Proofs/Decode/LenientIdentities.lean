import PropertyGraph.Proofs.Decode.Identities
import PropertyGraph.Proofs.Decode.Records
import PropertyGraph.Proofs.Entries

/-!
# Identities that may be unreadable

A request for one thing needs its identity, and a check for existence takes an identity if there is
one and ignores what it cannot read.  The check collapses the value before it looks for the shapes
of an identity.  So it finds the same identity as the request, unless an object repeats one of the
two words: then the request finds no identity, but the check goes by the words that come last.

## Main definitions

* `RepeatsWord`, `LastWords` — an object that repeats a word, and the words that it gives last.
* `identityDocument` — an object whose only member is an identity.

## Main results

* `identityOf_collapse` — collapsing matters only where a word is repeated.
* `RepeatsWord.identityOf_collapse_eq_ok_iff` — where it is, the last words count.
* `Schema.decode_singleton`, `Schema.decode_identityIfAny` — a request with one field.
* `ofText_of_read?` — a document is decoded as the value that it holds.
* `lenient_identity_exact` — **the check and the request agree unless a word is repeated.**
-/

namespace PropertyGraph

/-! ### Reading names from the end -/

namespace Entries

variable {α β : Type} {name : String}

theorem get?_append (front back : Entries α) :
    get? name (front ++ back) = (get? name front).or (get? name back) := by
  induction front with
  | nil => rfl
  | cons e rest ih =>
    obtain ⟨k, v⟩ := e
    by_cases h : k = name
    · simp [get?, h]
    · simp [get?, h, ih]

/-- The order does not matter for a name that does not repeat. -/
theorem get?_reverse {entries : Entries α} (h : (keys entries).count name ≤ 1) :
    get? name entries.reverse = get? name entries := by
  induction entries with
  | nil => rfl
  | cons e rest ih =>
    obtain ⟨k, v⟩ := e
    rw [List.reverse_cons, get?_append]
    rw [keys_cons, List.count_cons] at h
    by_cases hk : k = name
    · have hrest : name ∉ keys rest := List.count_eq_zero.mp (by simp [hk] at h; omega)
      rw [ih (by omega), get?_eq_none_iff.mpr hrest, Option.none_or]
      simp [get?, hk]
    · rw [ih (by omega)]
      simp [get?, hk]

theorem get?_map (f : α → β) (entries : Entries α) :
    get? name (entries.map fun e => (e.1, f e.2)) = (get? name entries).map f := by
  induction entries with
  | nil => rfl
  | cons e rest ih =>
    obtain ⟨k, v⟩ := e
    by_cases h : k = name
    · simp [get?, h]
    · simp [get?, h, ih]

end Entries

namespace Json

theorem collapseMembers_eq_map (members : List (String × Json)) :
    collapseMembers members = members.map fun m => (m.1, collapse m.2) := by
  induction members with
  | nil => rfl
  | cons m rest ih =>
    obtain ⟨k, v⟩ := m
    rw [collapseMembers, ih, List.map_cons]

end Json

namespace Decode

open Json Identity

variable {members : List (String × Json)} {name : String} {v : Json} {id : Identity}

/-! ### Repeated words -/

/-- An object that repeats one of the two words of an identity. -/
def RepeatsWord (v : Json) : Prop :=
  ∃ members, v = .object members ∧
    (1 < (Entries.keys members).count "low" ∨ 1 < (Entries.keys members).count "high")

/-- The two words that an object gives last. -/
def LastWords (v : Json) (low high : Int64) : Prop :=
  ∃ members, v = .object members ∧
    Entries.get? "low" members.reverse = some (.number (.int low.toInt)) ∧
    Entries.get? "high" members.reverse = some (.number (.int high.toInt))

theorem not_repeatsWord_of_namesDistinct (h : v.namesDistinct = true) : ¬RepeatsWord v := by
  rintro ⟨members, rfl, hcount⟩
  have hnodup := (namesDistinct_object.mp h).1
  have hlow := List.nodup_iff_count_le_one.mp hnodup "low"
  have hhigh := List.nodup_iff_count_le_one.mp hnodup "high"
  omega

/-- A name that does not repeat is found, from whichever end it is looked for. -/
theorem single?_eq_get? (h : (Entries.keys members).count name ≤ 1) :
    single? name members = Entries.get? name members.reverse := by
  rw [Entries.get?_reverse h]
  unfold single?
  split
  · rfl
  · have hnone : name ∉ Entries.keys members := List.count_eq_zero.mp (by omega)
    exact (Entries.get?_eq_none_iff.mpr hnone).symm

theorem single?_eq_none (h : 1 < (Entries.keys members).count name) :
    single? name members = none :=
  if_neg (by omega)

/-- After collapsing, the last value of a name is the only one. -/
theorem single?_collapse :
    single? name (Entries.ofList (collapseMembers members))
      = (Entries.get? name members.reverse).map collapse := by
  have hnodup := Entries.nodup_keys_ofList (collapseMembers members)
  have hcount := List.nodup_iff_count_le_one.mp hnodup name
  rw [single?_eq_get? hcount, Entries.get?_reverse hcount, Entries.get?_ofList,
    collapseMembers_eq_map, ← List.map_reverse, Entries.get?_map]

theorem toInt64?_collapse (v : Json) : v.collapse.toInt64? = v.toInt64? := by
  cases v <;> rfl

theorem words?_collapse_eq_some_iff {low high : Int64} :
    words? (Entries.ofList (collapseMembers members)) = some (low, high) ↔
      LastWords (.object members) low high := by
  simp only [words?, Option.bind_eq_bind, Option.bind_eq_some_iff, single?_collapse,
    Option.map_eq_some_iff]
  constructor
  · rintro ⟨_, ⟨w, hlow, rfl⟩, l, hl, _, ⟨w', hhigh, rfl⟩, u, hu, hsome⟩
    cases hsome
    rw [toInt64?_collapse, Json.toInt64?_eq_some_iff] at hl hu
    subst hl hu
    exact ⟨members, rfl, hlow, hhigh⟩
  · rintro ⟨_, hv, hlow, hhigh⟩
    cases hv
    exact ⟨_, ⟨_, hlow, rfl⟩, low, Json.toInt64?_eq_some_iff.mpr rfl, _, ⟨_, hhigh, rfl⟩, high,
      Json.toInt64?_eq_some_iff.mpr rfl, rfl⟩

theorem words?_collapse_of_not_repeatsWord (h : ¬RepeatsWord (.object members)) :
    words? (Entries.ofList (collapseMembers members)) = words? members := by
  -- neither word repeats, so the first of each is also the last
  have hlow : (Entries.keys members).count "low" ≤ 1 :=
    Nat.le_of_not_lt fun hlow => h ⟨members, rfl, .inl hlow⟩
  have hhigh : (Entries.keys members).count "high" ≤ 1 :=
    Nat.le_of_not_lt fun hhigh => h ⟨members, rfl, .inr hhigh⟩
  simp only [words?, single?_collapse, single?_eq_get? hlow, single?_eq_get? hhigh]
  cases Entries.get? "low" members.reverse with
  | none => rfl
  | some low =>
    simp only [Option.map_some, Option.bind_eq_bind, Option.bind_some, toInt64?_collapse]
    cases Entries.get? "high" members.reverse with
    | none => rfl
    | some high =>
      simp only [Option.map_some, Option.bind_some, toInt64?_collapse]

/-- **Collapsing matters only where a word is repeated.** -/
theorem identityOf_collapse (h : ¬RepeatsWord v) : identityOf v.collapse = identityOf v := by
  cases v with
  | object members =>
    rw [collapse, identityOf, identityOf, words?_collapse_of_not_repeatsWord h]
  | _ => rfl

/-- An object that repeats a word is no identity. -/
theorem RepeatsWord.identityOf_eq (h : RepeatsWord v) :
    identityOf v = .error (.unrecognized .identity) := by
  obtain ⟨members, rfl, hcount⟩ := h
  have hnone : words? members = none := by
    unfold words?
    rcases hcount with hlow | hhigh
    · rw [single?_eq_none hlow]
      rfl
    · rw [single?_eq_none hhigh]
      cases single? "low" members with
      | none => rfl
      | some low => cases low.toInt64? <;> simp
  rw [identityOf, hnone]

/-- Where a word is repeated, the last words count. -/
theorem RepeatsWord.identityOf_collapse_eq_ok_iff (h : RepeatsWord v) :
    identityOf v.collapse = .ok id ↔
      ∃ low high, LastWords v low high ∧ ofWideWords low high = .ok id := by
  obtain ⟨members, rfl, -⟩ := h
  rw [collapse, identityOf]
  simp only [← words?_collapse_eq_some_iff]
  cases words? (Entries.ofList (collapseMembers members)) with
  | none => simp
  | some words =>
    obtain ⟨low, high⟩ := words
    cases hid : ofWideWords low high <;> simp [Except.mapError, hid]

/-! ### Documents with an identity -/

/-- A record with one field is what this field writes, when no other field is required. -/
theorem Schema.decode_singleton {α : Type} {s : Schema α} {f : Field α} {k : String}
    (hfield : s.field? k = some f) (hmissing : s.missing? [k] = none) {o inner : Origin}
    (hinside : o.inside? = some inner) :
    s.decode o (.ofJson (.object [(k, v)]))
      = (f.read inner (.ofJson v)).map fun write => write s.blank := by
  simp only [Draft.ofJson, Draft.ofMembers, decode]
  rw [hinside]
  simp only [byName]
  rw [hfield]
  cases hread : f.read inner (.ofJson v) with
  | error fault => simp [hread, Except.map]
  | ok write => simp [hread, hmissing, Except.map]

/-- An object whose only member is an identity. -/
def identityDocument (v : Json) : Json :=
  .object [("id", v)]

variable {o : Origin}

theorem decode_byIdentity (h : o.Holds (identityDocument v).depth) :
    Schema.byIdentity.decode o (.ofJson (identityDocument v)) = identityOf v := by
  obtain ⟨inner, hinside, hinner⟩ := h.inside
  have hread : identity inner (.ofJson v) = identityOf v := whole_ofJson hinner.left
  rw [identityDocument, Schema.decode_singleton rfl rfl hinside]
  show ((identity inner (.ofJson v)).map _).map _ = _
  rw [hread]
  cases identityOf v <;> rfl

/-- A record whose only given field is an identity that may be unreadable. -/
theorem Schema.decode_identityIfAny {α : Type} {s : Schema α} {write : Option Identity → α → α}
    (hfield : s.field? "id" = some (.of "id" identityIfAny write))
    (hmissing : s.missing? ["id"] = none) (h : o.Holds (identityDocument v).depth) :
    s.decode o (.ofJson (identityDocument v))
      = .ok (write (identityOf v.collapse).toOption s.blank) := by
  obtain ⟨inner, hinside, hinner⟩ := h.inside
  have hread : identityIfAny inner (.ofJson v) = .ok (identityOf v.collapse).toOption :=
    whole_ofJson hinner.left
  rw [identityDocument, decode_singleton hfield hmissing hinside]
  show ((identityIfAny inner (.ofJson v)).map write).map _ = _
  rw [hread]
  rfl

theorem decode_nodeProbe (h : o.Holds (identityDocument v).depth) :
    Schema.nodeProbe.decode o (.ofJson (identityDocument v))
      = .ok { id := (identityOf v.collapse).toOption } := by
  have hfield : Schema.nodeProbe.field? "id"
      = some (.of "id" identityIfAny fun id r => { r with id := id }) := rfl
  exact Schema.decode_identityIfAny hfield rfl h

theorem decode_relationProbe (h : o.Holds (identityDocument v).depth) :
    Schema.relationProbe.decode o (.ofJson (identityDocument v))
      = .ok { id := (identityOf v.collapse).toOption } := by
  have hfield : Schema.relationProbe.field? "id"
      = some (.of "id" identityIfAny fun id r => { r with id := id }) := rfl
  exact Schema.decode_identityIfAny hfield rfl h

/-- A decoder runs on a text that is a document as it runs on the value of the document. -/
theorem ofText_of_read? {α : Type} {s : String} {w : Json} (h : Json.read? s = some w)
    (decode : Decoder α) :
    ofText decode s = decode .document (.ofJson w) ∧ Origin.document.Holds w.depth := by
  unfold Json.read? at h
  split at h
  · next d rest hread =>
    split at h
    · next hblank =>
      obtain ⟨rfl, hholds⟩ := Draft.strict?_eq_some_iff.mp h
      refine ⟨?_, hholds⟩
      unfold ofText
      rw [hread]
      simp only [Option.any_some, hblank, if_true]
      cases decode .document (.ofJson w) <;> rfl
    · cases h
  · cases h

theorem toOption_eq_some_iff {x : Except Fault Identity} : x.toOption = some id ↔ x = .ok id := by
  cases x <;> simp [Except.toOption]

/-- **A check and a request find the same identity unless a word is repeated.**  A document with an
identity alone is always a check for existence.  In a value in hand, and in a text whose identity
repeats no word, the check has an identity exactly when the request can be decoded, and then it is
the same one.  In a text that repeats a word the request finds no identity, but the check has the
one that the last words make, if they make one. -/
theorem lenient_identity_exact (v : Json) :
    (v.namesDistinct = true → ∃ found,
      ofValue Schema.nodeProbe.decode (identityDocument v) = .ok { id := found } ∧
      ofValue Schema.relationProbe.decode (identityDocument v) = .ok { id := found } ∧
      ∀ id, found = some id ↔
        ofValue Schema.byIdentity.decode (identityDocument v) = .ok id) ∧
    ∀ s, Json.read? s = some (identityDocument v) → ∃ found,
      ofText Schema.nodeProbe.decode s = .ok { id := found } ∧
      ofText Schema.relationProbe.decode s = .ok { id := found } ∧
      (¬RepeatsWord v → ∀ id, found = some id ↔ ofText Schema.byIdentity.decode s = .ok id) ∧
      (RepeatsWord v →
        ofText Schema.byIdentity.decode s = .error (.unrecognized .identity) ∧
        ∀ id, found = some id ↔
          ∃ low high, LastWords v low high ∧ ofWideWords low high = .ok id) := by
  constructor
  · intro hnames
    have hholds : Origin.tree.Holds (identityDocument v).depth := trivial
    refine ⟨_, decode_nodeProbe hholds, decode_relationProbe hholds, fun id => ?_⟩
    show _ ↔ Schema.byIdentity.decode .tree (.ofJson (identityDocument v)) = .ok id
    rw [decode_byIdentity hholds, toOption_eq_some_iff,
      identityOf_collapse (not_repeatsWord_of_namesDistinct hnames)]
  · intro s hs
    obtain ⟨hstrict, hholds⟩ := ofText_of_read? hs Schema.byIdentity.decode
    rw [decode_byIdentity hholds] at hstrict
    refine ⟨(identityOf v.collapse).toOption, ?_, ?_, fun h id => ?_, fun h => ⟨?_, fun id => ?_⟩⟩
    · rw [(ofText_of_read? hs _).1, decode_nodeProbe hholds]
    · rw [(ofText_of_read? hs _).1, decode_relationProbe hholds]
    · rw [hstrict, toOption_eq_some_iff, identityOf_collapse h]
    · rw [hstrict, h.identityOf_eq]
    · rw [toOption_eq_some_iff, h.identityOf_collapse_eq_ok_iff]

/-- An object that repeats its lower word. -/
def repeatedWord : Json :=
  .object [("low", .number (.int 1)), ("low", .number (.int 2)), ("high", .number (.int 0))]

/-- The text of a document that has it as its identity. -/
def repeatedWordText : String :=
  "\x7b\"id\":\x7b\"low\":1,\"low\":2,\"high\":0\x7d\x7d"

theorem read?_repeatedWordText :
    Json.read? repeatedWordText = some (identityDocument repeatedWord) := by
  have htext : (identityDocument repeatedWord).text = repeatedWordText := by decide +kernel
  rw [← htext]
  exact read?_text (by decide) (by decide)

/-- An object that gives two words, and repeats another member. -/
def remarkedWords : Json :=
  .object [("note", .null), ("high", .number (.int 0)), ("low", .number (.int 7)),
    ("note", .bool true)]

/-- A member that is no word may repeat, and of a repeated word the last value counts. -/
theorem lenient_identity_exact_remarkedWords :
    (Json.string " 8 ").namesDistinct = true ∧
    ofValue Schema.relationProbe.decode (identityDocument (.string " 8 "))
      = .ok { id := some ⟨8⟩ } ∧
    Json.read? (identityDocument remarkedWords).text = some (identityDocument remarkedWords) ∧
    ¬RepeatsWord remarkedWords ∧
    ofText Schema.nodeProbe.decode (identityDocument remarkedWords).text
      = .ok { id := some ⟨7⟩ } ∧
    RepeatsWord repeatedWord ∧
    ofText Schema.nodeProbe.decode repeatedWordText = .ok { id := some ⟨2⟩ } := by
  have hread : Json.read? (identityDocument remarkedWords).text
      = some (identityDocument remarkedWords) := read?_text (by decide) (by decide)
  have hsound : ¬RepeatsWord remarkedWords := by
    rintro ⟨members, hmembers, hcount⟩
    cases hmembers
    exact absurd hcount (by decide)
  have hrepeats : RepeatsWord repeatedWord := ⟨_, rfl, .inl (by decide)⟩
  have hwords : LastWords repeatedWord 2 0 := ⟨_, rfl, rfl, rfl⟩
  have hstrict :
      ofText Schema.byIdentity.decode (identityDocument remarkedWords).text = .ok ⟨7⟩ := by
    obtain ⟨hdecode, hholds⟩ := ofText_of_read? hread Schema.byIdentity.decode
    rw [hdecode, decode_byIdentity hholds]
    rfl
  obtain ⟨text, -, htext, hvalue⟩ := (lenient_identity_exact (.string " 8 ")).1 rfl
  obtain ⟨remarked, hremarked, -, hagree, -⟩ := (lenient_identity_exact remarkedWords).2 _ hread
  obtain ⟨repeated, hrepeated, -, -, hlast⟩ :=
    (lenient_identity_exact repeatedWord).2 _ read?_repeatedWordText
  refine ⟨rfl, ?_, hread, hsound, ?_, hrepeats, ?_⟩
  · rw [htext, (hvalue ⟨8⟩).mpr rfl]
  · rw [hremarked, (hagree hsound ⟨7⟩).mpr hstrict]
  · rw [hrepeated, ((hlast hrepeats).2 ⟨2⟩).mpr ⟨2, 0, hwords, rfl⟩]

/-- **A repeated word is not recognized by the request, but read by the check.** -/
theorem repeated_word_read_by_check :
    Json.read? repeatedWordText = some (identityDocument repeatedWord) ∧
    ofText Schema.byIdentity.decode repeatedWordText = .error (.unrecognized .identity) ∧
    ofText Schema.nodeProbe.decode repeatedWordText = .ok { id := some ⟨2⟩ } ∧
    ofText Schema.relationProbe.decode repeatedWordText = .ok { id := some ⟨2⟩ } := by
  have hread := read?_repeatedWordText
  have hholds := (ofText_of_read? hread Schema.byIdentity.decode).2
  refine ⟨hread, ?_, ?_, ?_⟩
  · rw [(ofText_of_read? hread _).1, decode_byIdentity hholds]
    rfl
  · rw [(ofText_of_read? hread _).1, decode_nodeProbe hholds]
    rfl
  · rw [(ofText_of_read? hread _).1, decode_relationProbe hholds]
    rfl

end Decode

end PropertyGraph
