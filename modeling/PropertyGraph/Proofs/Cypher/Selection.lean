import PropertyGraph.Proofs.Cypher.Parts
import PropertyGraph.Proofs.Cypher.Slots

/-!
# Nodes are selected alike

A statement on nodes says itself which nodes it is about; a statement on relationships has clauses
for its endpoints.  Both select nodes by the same text: a selector stands between the same
parentheses, whether its labels and its filter are there, empty or absent, and an identity is looked
for or started from with the same words.

## Main results

* `Clauses.text_selected` — the clause of one selector is the pattern of a statement on nodes.
* `Ends.text_clauses_condition`, `Ends.text_clauses_start` — the clauses of one identity.
* `nodes_selected_alike` — **statements on nodes and endpoints select nodes by the same text.**
-/

namespace PropertyGraph.Cypher

variable (s : NodeSelector) (data : Properties) (mode : WriteMode) (id : Identity)
  (eitherWay : Bool)

/-! ### Clauses with few items -/

theorem words_singleton {piece : String} (h : piece ≠ "") : words [piece] = piece := by
  rw [words_cons h, afterSpace_words_nil, String.append_empty]

theorem words_concat_empty (pieces : List String) : words (pieces ++ [""]) = words pieces := by
  unfold words
  rw [List.filter_append]
  exact congrArg _ (List.append_nil _)

/-- The clause of one selector is the pattern of a statement on nodes: a filter that is absent
leaves no space behind the labels, and one without properties leaves an empty pair of braces. -/
theorem Clauses.text_selected :
    (Clauses.ofList [.node ⟨"n", s.text⟩]).text
      = "MATCH " ++ nodeWith s.labels (filterLiterals s.filter) := by
  have htext : (Clauses.ofList [.node ⟨"n", s.text⟩]).text
      = words ["", "MATCH " ++ NodeItem.text ⟨"n", s.text⟩, ""] := rfl
  have hne : "MATCH " ++ NodeItem.text ⟨"n", s.text⟩ ≠ "" := by simp
  rw [htext, words_empty_cons, ← List.singleton_append, words_concat_empty, words_singleton hne,
    nodeWith_filterLiterals, NodeItem.text, String.append_assoc]
  rfl

/-- The clauses of an endpoint with labels and properties, however identities are found. -/
theorem Ends.text_clauses_selected (addressing : Addressing) :
    (Ends.clauses ⟨.selected s, .any, eitherWay⟩ addressing).text
      = (Clauses.ofList [.node ⟨"n", s.text⟩]).text := rfl

/-- The clauses of an endpoint with an identity, when a condition asks for it. -/
theorem Ends.text_clauses_condition :
    (Ends.clauses ⟨.node id, .any, eitherWay⟩ .condition).text
      = "MATCH (n) " ++ Anchor.whereClause ⟨id, "n"⟩ := by
  have htext : (Ends.clauses ⟨.node id, .any, eitherWay⟩ .condition).text
      = words ["", "MATCH (n)", Anchor.whereClause ⟨id, "n"⟩] := rfl
  have hne : Anchor.whereClause ⟨id, "n"⟩ ≠ "" := by simp [Anchor.whereClause]
  rw [htext, words_empty_cons, words_cons (by decide), words_singleton hne,
    afterSpace_of_ne_empty hne, ← String.append_assoc]
  rfl

/-- The clauses of an endpoint with an identity, when the statement starts from it. -/
theorem Ends.text_clauses_start :
    (Ends.clauses ⟨.node id, .any, eitherWay⟩ .start).text = Anchor.startNode ⟨id, "n"⟩ := by
  have htext : (Ends.clauses ⟨.node id, .any, eitherWay⟩ .start).text
      = words ([Anchor.startNode ⟨id, "n"⟩] ++ [""] ++ [""]) := rfl
  have hne : Anchor.startNode ⟨id, "n"⟩ ≠ "" := by simp [Anchor.startNode]
  rw [htext, words_concat_empty, words_concat_empty, words_singleton hne]

/-! ### Statements on nodes -/

theorem setting_node (properties : String) :
    setting node mode properties = " " ++ ("SET n " ++ mode.operator ++ " " ++ properties) := by
  have hopening : " SET " ++ node ++ " " = " " ++ "SET n " := rfl
  rw [setting, hopening]
  simp only [String.append_assoc]

/-- **Statements on nodes and endpoints select nodes by the same text.**  A search and a change
begin with the clauses of the same selector as an endpoint, and a search by identity with those of
an endpoint that a condition asks for; a deletion and a change by identity begin with the clauses of
an endpoint that the statement starts from, and a space. -/
theorem nodes_selected_alike :
    (∀ addressing, (Ends.clauses ⟨.selected s, .any, eitherWay⟩ addressing).text
      = (Clauses.ofList [.node ⟨"n", s.text⟩]).text) ∧
    (findNodes s none).text = (Clauses.ofList [.node ⟨"n", s.text⟩]).text ++ " RETURN n" ∧
    (setNodes s data mode).text = (Clauses.ofList [.node ⟨"n", s.text⟩]).text ++
      " SET n " ++ mode.operator ++ " " ++ payload data ++ " RETURN n" ∧
    (lookUpNode id).text
      = (Ends.clauses ⟨.node id, .any, eitherWay⟩ .condition).text ++ " RETURN n" ∧
    (deleteNode id).text
      = (Ends.clauses ⟨.node id, .any, eitherWay⟩ .start).text ++ " " ++
        "DELETE n RETURN COUNT(n) as count" ∧
    (setNode id data mode).text
      = (Ends.clauses ⟨.node id, .any, eitherWay⟩ .start).text ++ " " ++
        ("SET n " ++ mode.operator ++ " " ++ payload data ++ " RETURN n") := by
  have hreturning : returning node = " RETURN n" := rfl
  have hdeleting : deleting node = " " ++ "DELETE n RETURN COUNT(n) as count" := rfl
  have hspace : " SET n " = " " ++ "SET n " := rfl
  refine ⟨Ends.text_clauses_selected s eitherWay, ?_, ?_, ?_, ?_, ?_⟩
  · rw [Clauses.text_selected, ← hreturning]
    exact String.append_empty
  · rw [Clauses.text_selected, hspace]
    simp only [setNodes, Statement.binding, setting_node, hreturning, String.append_assoc]
  · rw [Ends.text_clauses_condition, ← hreturning]
    rfl
  · rw [Ends.text_clauses_start, String.append_assoc, ← hdeleting]
    rfl
  · rw [Ends.text_clauses_start]
    simp only [setNode, Statement.binding, setting_node, hreturning, String.append_assoc]
    rfl

/-- The city of Oslo by its name. -/
def oslo : NodeSelector :=
  { labels := ["City"], filter := some (.ofList [("name", .string "Oslo")]) }

/-- A change with data sends it by name, and one without data sets an empty pair of braces. -/
theorem nodes_selected_alike_oslo :
    let size : Properties := .ofList [("size", .number (.int 7))]
    (setNodes oslo size .merge).text
      = "MATCH (n:City \x7b name: \"Oslo\" \x7d) SET n += \x7b size : \x7bsize\x7d \x7d RETURN n" ∧
    (setNodes oslo .empty .overwrite).text
      = "MATCH (n:City \x7b name: \"Oslo\" \x7d) SET n = \x7b\x7d RETURN n" ∧
    (setNode ⟨5⟩ size .overwrite).text
      = "START n=node(5) SET n = \x7b size : \x7bsize\x7d \x7d RETURN n" ∧
    (setNode ⟨5⟩ .empty .merge).text = "START n=node(5) SET n += \x7b\x7d RETURN n" ∧
    (findNodes oslo none).text = "MATCH (n:City \x7b name: \"Oslo\" \x7d) RETURN n" ∧
    (lookUpNode ⟨5⟩).text = "MATCH (n) WHERE id(n) = 5 RETURN n" ∧
    (deleteNode ⟨5⟩).text = "START n=node(5) DELETE n RETURN COUNT(n) as count" := by
  intro size
  obtain ⟨-, hfind, hsized, hlookUp, hdelete, -⟩ := nodes_selected_alike oslo size .merge ⟨5⟩ false
  obtain ⟨-, -, -, -, -, hset⟩ := nodes_selected_alike oslo size .overwrite ⟨5⟩ false
  obtain ⟨-, -, hunsized, -, -, -⟩ := nodes_selected_alike oslo .empty .overwrite ⟨5⟩ false
  obtain ⟨-, -, -, -, -, hunset⟩ := nodes_selected_alike oslo .empty .merge ⟨5⟩ false
  refine ⟨hsized.trans ?_, hunsized.trans ?_, hset.trans ?_, hunset.trans ?_, hfind.trans ?_,
    hlookUp.trans ?_, hdelete.trans ?_⟩
  all_goals decide +kernel

/-- A filter without properties selects by its braces, and a filter that is absent by nothing. -/
example : (findNodes { filter := some .empty } none).text = "MATCH (n \x7b\x7d) RETURN n" ∧
    (findNodes {} none).text = "MATCH (n) RETURN n" := by
  decide

end PropertyGraph.Cypher
