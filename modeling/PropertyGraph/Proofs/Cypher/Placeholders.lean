import PropertyGraph.Proofs.Text.Scanner
import PropertyGraph.Proofs.Cypher.Respect

/-!
# Placeholders and parameters

A placeholder is a name between braces, outside literals.  The braces of inlined values never make
one, whatever the values hold, so the placeholders in the text of a command are exactly the names of
its parameters, in order.

## Main definitions

* `placeholderAt?` — the placeholder at the front of a text.
* `placeholderNames` — the placeholders of a text, in order of occurrence.
* `Yields` — a piece of text with its placeholders.

## Main results

* `textRelation_plain` — query text other than placeholders yields none.
* `Command.yields_statement` — the text of a command yields the names of what it sends.
* `Command.placeholders_eq_params` — **placeholders and parameters agree**, for every command.
-/

namespace PropertyGraph

namespace Text

/-! ### Finding placeholders -/

/-- The letters, digits and underscores at the front of a text that has been cut into tokens, and
what follows them. -/
def spanWord : List Token → List Char × List Token
  | .plain c :: rest =>
    if isWordChar c then (c :: (spanWord rest).1, (spanWord rest).2) else ([], .plain c :: rest)
  | tokens => ([], tokens)

/-- The placeholder at the front of a text: an opening brace, at least one letter, digit or
underscore, and a closing brace. -/
def placeholderAt? : List Token → Option String
  | .plain '{' :: rest =>
    match spanWord rest with
    | (c :: cs, .plain '}' :: _) => some (.ofList (c :: cs))
    | _ => none
  | _ => none

/-- The names of all placeholders of a text, in order of occurrence. -/
def placeholderNames : List Token → List String
  | [] => []
  | t :: rest => (placeholderAt? (t :: rest)).toList ++ placeholderNames rest

theorem placeholderNames_cons_of_none {t : Token} {rest : List Token}
    (h : placeholderAt? (t :: rest) = none) :
    placeholderNames (t :: rest) = placeholderNames rest := by
  rw [placeholderNames, h]
  rfl

theorem spanWord_append {cs : List Char} (h : ∀ c ∈ cs, isWordChar c = true) {d : Char}
    (hd : isWordChar d = false) (rest : List Token) :
    spanWord (cs.map .plain ++ .plain d :: rest) = (cs, .plain d :: rest) := by
  induction cs with
  | nil => simp [spanWord, hd]
  | cons c cs ih =>
    have hc : isWordChar c = true := h c (List.mem_cons_self ..)
    have hrest := ih fun x hx => h x (List.mem_cons_of_mem _ hx)
    simp [spanWord, hc, hrest]

/-- Characters other than an opening brace begin no placeholder. -/
theorem placeholderNames_plain {cs : List Char} (h : ∀ c ∈ cs, c ≠ '{') (rest : List Token) :
    placeholderNames (cs.map .plain ++ rest) = placeholderNames rest := by
  induction cs with
  | nil => rfl
  | cons c cs ih =>
    have hc : c ≠ '{' := h c (List.mem_cons_self ..)
    have hnone : placeholderAt? (.plain c :: (cs.map .plain ++ rest)) = none := by
      unfold placeholderAt?
      split
      · next heq => simp only [List.cons.injEq, Token.plain.injEq] at heq; exact absurd heq.1 hc
      · rfl
    rw [List.map_cons, List.cons_append, placeholderNames_cons_of_none hnone]
    exact ih fun d hd => h d (List.mem_cons_of_mem _ hd)

/-! ### Pieces of text -/

/-- A piece of text that is read to its end, with its placeholders, whatever follows it. -/
def Yields (s : String) (names : List String) : Prop :=
  ∃ tokens, Reads s.toList tokens ∧
    ∀ rest, placeholderNames (tokens ++ rest) = names ++ placeholderNames rest

namespace Yields

theorem append {a b : String} {ns ms : List String} (ha : Yields a ns) (hb : Yields b ms) :
    Yields (a ++ b) (ns ++ ms) := by
  obtain ⟨ts, hts, hn⟩ := ha
  obtain ⟨us, hus, hm⟩ := hb
  refine ⟨ts ++ us, ?_, ?_⟩
  · rw [String.toList_append]
    exact hts.append hus
  · -- what follows the first piece is the second one with the rest
    intro rest
    rw [List.append_assoc, hn, hm, List.append_assoc]

/-- The placeholders of a whole text. -/
theorem names_eq {s : String} {ns : List String} (h : Yields s ns) :
    ∃ tokens, Reads s.toList tokens ∧ placeholderNames tokens = ns := by
  obtain ⟨tokens, hread, hnames⟩ := h
  refine ⟨tokens, hread, ?_⟩
  simpa [placeholderNames] using hnames []

theorem of_isBland {s : String} (h : Cypher.IsBland s) : Yields s [] := by
  refine ⟨s.toList.map .plain, ?_, ?_⟩
  · apply Reads.plain
    intro c hc
    exact (h c hc).1
  · intro rest
    apply placeholderNames_plain
    intro c hc
    exact (h c hc).2

theorem quoted (s : String) : Yields (Cypher.quoted s) [] := by
  refine ⟨[.literal (s.toList.flatMap Json.escapedChar)], ?_, fun rest => rfl⟩
  unfold Cypher.quoted
  rw [String.toList_ofList]
  exact reads_stringChars s

/-- A brace in front of a literal begins no placeholder. -/
theorem member (k : String) : Yields ("\x7b" ++ Cypher.quoted k) [] := by
  have hbrace : Reads ['{'] [.plain '{'] := rfl
  refine ⟨[.plain '{', .literal (k.toList.flatMap Json.escapedChar)], ?_, fun rest => rfl⟩
  rw [String.toList_append]
  refine hbrace.append ?_
  unfold Cypher.quoted
  rw [String.toList_ofList]
  exact reads_stringChars k

theorem braces : Yields Cypher.noProperties [] :=
  ⟨[.plain '{', .plain '}'], rfl, fun _ => rfl⟩

theorem opening : Yields "\x7b " [] :=
  ⟨[.plain '{', .plain ' '], rfl, fun _ => rfl⟩

/-- A name between braces is a placeholder. -/
theorem inBraces {k : String} (h : IsName k) : Yields ("\x7b" ++ k ++ "\x7d") [k] := by
  obtain ⟨hne, hword⟩ := h
  have hplain : ∀ c ∈ k.toList ++ ['}'], c ≠ '"' ∧ c ≠ '{' := by
    intro c hc
    rcases List.mem_append.mp hc with hc | hc
    · exact Cypher.isBland_word hword c hc
    · rw [List.mem_singleton.mp hc]
      decide
  refine ⟨.plain '{' :: (k.toList ++ ['}']).map .plain, ?_, ?_⟩
  · have hbrace : Reads ['{'] [.plain '{'] := rfl
    rw [String.toList_append, String.toList_append, List.append_assoc]
    apply hbrace.append
    apply Reads.plain
    intro c hc
    exact (hplain c hc).1
  · -- the word between the braces is not empty, so that it is a placeholder
    intro rest
    have hspan : spanWord ((k.toList ++ ['}']).map .plain ++ rest)
        = (k.toList, .plain '}' :: rest) := by
      rw [List.map_append, List.append_assoc]
      exact spanWord_append hword (by decide) rest
    have hhere : placeholderAt? (.plain '{' :: ((k.toList ++ ['}']).map .plain ++ rest))
        = some k := by
      unfold placeholderAt?
      simp only [hspan]
      cases hk : k.toList with
      | nil => exact absurd (String.toList_eq_nil_iff.mp hk) hne
      | cons c cs =>
        show some (String.ofList (c :: cs)) = some k
        rw [← hk, String.ofList_toList]
    -- nothing after the opening brace begins another one
    rw [List.cons_append, placeholderNames, hhere]
    have hrest := placeholderNames_plain (fun c hc => (hplain c hc).2) rest
    rw [hrest]
    rfl

theorem afterSpace {s : String} {ns : List String} (h : Yields s ns) :
    Yields (Cypher.afterSpace s) ns := by
  unfold Cypher.afterSpace
  split
  · next hs =>
    rw [String.isEmpty_iff] at hs
    exact hs ▸ h
  · exact (of_isBland (s := " ") (by decide)).append h

/-- An empty text yields nothing. -/
theorem eq_nil {ns : List String} (h : Yields "" ns) : ns = [] := by
  obtain ⟨tokens, hread, hnames⟩ := h.names_eq
  rw [← hnames, ← Reads.nil.unique hread]
  rfl

/-- Two words one after another. -/
theorem words {a b : String} {ns ms : List String} (ha : Yields a ns) (hb : Yields b ms) :
    Yields (Cypher.words [a, b]) (ns ++ ms) := by
  have hlast : Yields (Cypher.words [b]) ms := by
    by_cases h : b = ""
    · subst h
      exact hb
    · rw [Cypher.words_cons h, Cypher.afterSpace_words_nil, String.append_empty]
      exact hb
  by_cases h : a = ""
  · subst h
    rw [Cypher.words_empty_cons, ha.eq_nil]
    exact hlast
  · rw [Cypher.words_cons h]
    exact ha.append hlast.afterSpace

end Yields

end Text

open Text

/-- Two texts without placeholders that are empty together. -/
def BothPlain (a b : String) : Prop :=
  (a = "" ↔ b = "") ∧ Yields a [] ∧ Yields b []

theorem BothPlain.of_isWord {s : String} (h : IsWord s) : BothPlain s s :=
  ⟨Iff.rfl, .of_isBland (Cypher.isBland_word h), .of_isBland (Cypher.isBland_word h)⟩

/-- **Query text other than placeholders yields none.** -/
theorem textRelation_plain : Cypher.TextRelation BothPlain where
  empty_iff h := h.1
  append := by
    rintro a b c d ⟨h, ha, hb⟩ ⟨k, hc, hd⟩
    refine ⟨?_, ha.append hc, hb.append hd⟩
    rw [String.append_eq_empty_iff, String.append_eq_empty_iff, h, k]
  bland h := ⟨Iff.rfl, .of_isBland h, .of_isBland h⟩
  quoted s t :=
    ⟨iff_of_false (Cypher.quoted_ne_empty s) (Cypher.quoted_ne_empty t), .quoted s, .quoted t⟩
  member k := ⟨Iff.rfl, .member k, .member k⟩
  braces := ⟨Iff.rfl, .braces, .braces⟩
  opening := ⟨Iff.rfl, .opening, .opening⟩

namespace Text.Yields

/-! ### What is sent -/

theorem placeholder {k : String} (h : IsName k) : Yields (Cypher.placeholder k) [k] := by
  have hfront : Yields (k ++ " : ") [] :=
    of_isBland ((Cypher.isBland_word h.2).append (by decide))
  have hsplit : Cypher.placeholder k = (k ++ " : ") ++ ("\x7b" ++ k ++ "\x7d") := by
    have hbrace : " : \x7b" = " : " ++ "\x7b" := rfl
    unfold Cypher.placeholder
    rw [hbrace]
    simp only [String.append_assoc]
  rw [hsplit]
  exact hfront.append (inBraces h)

theorem placeholderList {ks : List String} (h : ∀ k ∈ ks, IsName k) :
    Yields (", ".intercalate (ks.map Cypher.placeholder)) ks := by
  induction ks with
  | nil => exact of_isBland (by decide)
  | cons k rest ih =>
    have hk := placeholder (h k (List.mem_cons_self ..))
    cases rest with
    | nil => simpa using hk
    | cons l rest =>
      have hrest := ih fun x hx => h x (List.mem_cons_of_mem _ hx)
      rw [List.map_cons, List.map_cons, String.intercalate_cons_cons]
      exact (hk.append (of_isBland (s := ", ") (by decide))).append hrest

/-- Properties that are sent leave one placeholder for each name. -/
theorem braced {ks : List String} (h : ∀ k ∈ ks, IsName k) :
    Yields (Cypher.braced (ks.map Cypher.placeholder)) ks := by
  have hclose : Yields " \x7d" [] := of_isBland (by decide)
  have hall := (opening.append (placeholderList h)).append hclose
  rw [List.nil_append, List.append_nil] at hall
  exact hall

theorem placeholders {m : Properties} (h : ∀ k ∈ m.keys, IsName k) :
    Yields (Cypher.placeholders m) m.keys := by
  unfold Cypher.placeholders
  split
  · next hm =>
    rw [Properties.isEmpty_iff] at hm
    subst hm
    exact of_isBland (by decide)
  · exact braced h

theorem payload {m : Properties} (h : ∀ k ∈ m.keys, IsName k) :
    Yields (Cypher.payload m) m.keys := by
  unfold Cypher.payload
  split
  · next hm =>
    rw [Properties.isEmpty_iff] at hm
    subst hm
    exact braces
  · exact braced h

theorem filterPlaceholders {filter : Option Properties} (h : ∀ k ∈ keysOf filter, IsName k) :
    Yields (Cypher.filterPlaceholders filter) (keysOf filter) := by
  cases filter with
  | none => exact of_isBland (by decide)
  | some m => exact placeholders h

theorem nodeWith {names : List String} (h : ∀ s ∈ names, IsWord s) {p : String}
    {ns : List String} (hp : Yields p ns) : Yields (Cypher.nodeWith names p) ns := by
  have hopen : Yields ("(" ++ Cypher.node) [] := of_isBland (by decide)
  have hlabels := (textRelation_plain.labels fun s hs => BothPlain.of_isWord (h s hs)).2.1
  have hclose : Yields ")" [] := of_isBland (by decide)
  have hall := ((hopen.append hlabels).append hp.afterSpace).append hclose
  rw [List.append_nil] at hall
  exact hall

theorem setting {var : String} (hvar : Cypher.IsBland var) (mode : WriteMode) {p : String}
    {ns : List String} (hp : Yields p ns) : Yields (Cypher.setting var mode p) ns := by
  have hmode : Cypher.IsBland mode.operator := by cases mode <;> decide
  have hfront := (((by decide : Cypher.IsBland " SET ").append hvar).append
    (by decide : Cypher.IsBland " ")).append hmode
  exact (of_isBland (hfront.append (by decide))).append hp

theorem pattern {e : Cypher.Ends} {relType : Option String} (h : ∀ t ∈ relType.toList, IsWord t)
    {p : String} {ns : List String} (hp : Yields p ns) : Yields (e.pattern relType p) ns := by
  have hsource := (textRelation_plain.side e.shape.sourceNamed Cypher.node (by decide)).2.1
  have htype := (textRelation_plain.typeLabel fun t ht => BothPlain.of_isWord (h t ht)).2.1
  have htarget := (textRelation_plain.side e.shape.targetNamed Cypher.otherNode (by decide)).2.1
  have hopen : Yields "-[" [] := of_isBland (by decide)
  have hvar : Yields Cypher.relation [] := of_isBland (by decide)
  have hclose : Yields "]-" [] := of_isBland (by decide)
  have harrow : Yields (if e.shape.isDirected then ">" else "") [] := by
    split
    · exact of_isBland (by decide)
    · exact of_isBland (by decide)
  have hfront := ((hsource.append hopen).append hvar).append htype
  have hall := (((hfront.append hp.afterSpace).append hclose).append harrow).append htarget
  simp only [List.nil_append, List.append_nil] at hall
  exact hall

end Text.Yields

namespace Command

/-- **The text of a command yields the names of what it sends.**  Six commands send something; the
text of any other is made of pieces without placeholders. -/
theorem yields_statement (c : Command) (hw : ∀ s ∈ c.names, IsWord s)
    (hk : ∀ k ∈ c.sentKeys, IsName k) : Yields c.statement.text c.sentKeys := by
  have hreturn : ∀ {var : String}, Cypher.IsBland var → Yields (Cypher.returning var) [] :=
    fun hvar => .of_isBland ((by decide : Cypher.IsBland " RETURN ").append hvar)
  have hstart : ∀ {a : String}, Cypher.IsBland a → Yields ("START " ++ a) [] :=
    fun ha => .of_isBland ((by decide : Cypher.IsBland "START ").append ha)
  have hmatch : Yields "MATCH " [] := .of_isBland (by decide)
  have hcreate : Yields "CREATE " [] := .of_isBland (by decide)
  have hnode : Cypher.IsBland Cypher.node := by decide
  have hrelation : Cypher.IsBland Cypher.relation := by decide
  have hself : ∀ {s : String}, s ∈ c.names → BothPlain s s := fun hs => .of_isWord (hw _ hs)
  -- a command that sends nothing is the general case of text without placeholders
  have hnothing : c.sent = none → Yields c.statement.text c.sentKeys := by
    intro h
    have hkeys : c.sentKeys = [] := by rw [sentKeys, h]; rfl
    rw [hkeys]
    exact (textRelation_plain.statement c (fun s hs => hself hs) (by simp [h])).2.1
  cases c with
  | createNode labels data =>
    simp only [names, List.mem_append, or_imp, forall_and] at hw
    have hall := (hcreate.append (.nodeWith hw.1 (.placeholders hk))).append (hreturn hnode)
    rw [List.append_nil] at hall
    exact hall
  | deleteNodes nodes =>
    simp only [names, NodeSelector.names, List.mem_append, or_imp, forall_and] at hw
    have hdelete : Yields (Cypher.deleting Cypher.node) [] := .of_isBland (by decide)
    have hall := (hmatch.append (.nodeWith hw.1 (.filterPlaceholders hk))).append hdelete
    rw [List.append_nil] at hall
    exact hall
  | setNodes nodes data mode =>
    simp only [names, NodeSelector.names, List.mem_append, or_imp, forall_and] at hw
    have hfilter := (textRelation_plain.filterLiterals fun k hk => .of_isWord (hw.1.2 k hk)).2.1
    have hall := ((hmatch.append (.nodeWith hw.1.1 hfilter)).append
      (.setting hnode mode (.payload hk))).append (hreturn hnode)
    rw [List.append_nil] at hall
    exact hall
  | setNode id data mode =>
    have hid : Cypher.IsBland (Cypher.Anchor.node ⟨id, Cypher.node⟩) :=
      Cypher.Anchor.isBland_node hnode
    have hall := ((hstart hid).append (.setting hnode mode (.payload hk))).append (hreturn hnode)
    rw [List.append_nil] at hall
    exact hall
  | connect source relType target data =>
    -- the clauses hold no placeholders, the drawing holds those of the data
    simp only [names, List.mem_append, or_imp, forall_and] at hw
    obtain ⟨⟨⟨hs, hr⟩, ht⟩, -⟩ := hw
    have hclauses := (textRelation_plain.clausesText (textRelation_plain.clauses
      (e := ⟨source, target, false⟩) (fun s h => .of_isWord (hs s h))
      (fun s h => .of_isWord (ht s h)) .start)).2.1
    have hdrawing := hcreate.append
      (.pattern (e := ⟨source, target, false⟩) hr (.placeholders hk))
    have hall := (hclauses.words hdrawing).append (hreturn hrelation)
    rw [List.append_nil] at hall
    exact hall
  | setRelation id data mode =>
    have hid : Cypher.IsBland (Cypher.Anchor.relation ⟨id, Cypher.relation⟩) :=
      Cypher.Anchor.isBland_relation hrelation
    have hall := ((hstart hid).append (.setting hrelation mode (.payload hk))).append
      (hreturn hrelation)
    rw [List.append_nil] at hall
    exact hall
  | _ => exact hnothing rfl

/-- The names of the parameters are the names of what is sent. -/
theorem keysOf_params (c : Command) : keysOf c.statement.params = c.sentKeys := by
  rw [params_statement, sentKeys]
  cases h : c.sent with
  | none => rfl
  | some m =>
    show keysOf m.nonempty? = m.keys
    unfold Properties.nonempty?
    split
    · next hm =>
      rw [Properties.isEmpty_iff] at hm
      subst hm
      rfl
    · rfl

/-- The parameters are what is sent, unless that is an empty map. -/
theorem params_eq_some_iff {c : Command} {m : Properties} :
    c.statement.params = some m ↔ m.isEmpty = false ∧ c.sent = some m := by
  rw [params_statement, Option.bind_eq_some_iff]
  constructor
  · rintro ⟨n, hn, hm⟩
    unfold Properties.nonempty? at hm
    split at hm
    · cases hm
    · next hne =>
      obtain rfl := Option.some.inj hm
      exact ⟨Bool.eq_false_iff.mpr hne, hn⟩
  · rintro ⟨hne, hsent⟩
    refine ⟨m, hsent, ?_⟩
    rw [Properties.nonempty?, if_neg (Bool.eq_false_iff.mp hne)]

/-- **Placeholders and parameters agree.**  Take a command whose names are made of letters, digits
and underscores, and whose parameters have names that are not empty.  Its text is read to its end;
the placeholders outside literals are the names of the parameters, in order, each of them once; and
there are parameters exactly when the command sends something other than an empty map, and then they
are what it sends. -/
theorem placeholders_eq_params (c : Command) (hw : ∀ s ∈ c.names, IsWord s)
    (hk : ∀ k ∈ c.sentKeys, k ≠ "") :
    ∃ tokens, scan c.statement.text = some tokens ∧
      placeholderNames tokens = keysOf c.statement.params ∧
      (keysOf c.statement.params).Nodup ∧
      ∀ m, c.statement.params = some m ↔ m.isEmpty = false ∧ c.sent = some m := by
  have hnames : ∀ k ∈ c.sentKeys, IsName k := by
    intro k h
    exact ⟨hk k h, hw k (mem_names_of_mem_sentKeys h)⟩
  obtain ⟨tokens, hread, hyield⟩ := (c.yields_statement hw hnames).names_eq
  refine ⟨tokens, scan_eq_some_iff.mpr hread, ?_, ?_, ?_⟩
  · rw [hyield, keysOf_params]
  · cases hparams : c.statement.params with
    | none => exact List.nodup_nil
    | some m => exact m.nodup
  · intro m
    exact params_eq_some_iff

/-- Two properties, one of them with a value that looks like a placeholder. -/
def nameAndAge : Properties :=
  .ofList [("name", .string "\x7bage\x7d"), ("age", .number (.int 7))]

/-- Changes nodes found by a nested value that looks like placeholders, setting two properties. -/
def tagging : Command :=
  let tag : Json :=
    .object [("\x7bx\x7d", .string "\x7bname\x7d\"\\"), ("tag", .array [.object []])]
  .setNodes { labels := ["Person"], filter := some (.ofList [("tag", tag)]) } nameAndAge .merge

/-- Text between braces in a value is no placeholder. -/
theorem placeholders_eq_params_tagging :
    (∀ s ∈ tagging.names, IsWord s) ∧ (∀ k ∈ tagging.sentKeys, k ≠ "") ∧
    tagging.statement.text
      = "MATCH (n:Person \x7b tag: \x7b\"\x7bx\x7d\":\"\x7bname\x7d\\\"\\\\\"," ++
        "\"tag\":[\x7b\x7d]\x7d \x7d) SET n += \x7b name : \x7bname\x7d, age : \x7bage\x7d \x7d RETURN n" ∧
    (∃ tokens, scan tagging.statement.text = some tokens ∧
      placeholderNames tokens = ["name", "age"]) ∧
    tagging.statement.params = some nameAndAge := by
  have hwords : ∀ s ∈ tagging.names, IsWord s := by decide
  have hkeys : ∀ k ∈ tagging.sentKeys, k ≠ "" := by decide
  obtain ⟨tokens, hscan, hnames, -, hparams⟩ := placeholders_eq_params tagging hwords hkeys
  have hsent : tagging.statement.params = some nameAndAge :=
    (hparams nameAndAge).mpr ⟨rfl, rfl⟩
  refine ⟨hwords, hkeys, by decide +kernel, ⟨tokens, hscan, ?_⟩, hsent⟩
  rw [hnames, hsent]
  rfl

end Command

end PropertyGraph
