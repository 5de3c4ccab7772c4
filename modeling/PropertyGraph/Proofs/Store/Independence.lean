import PropertyGraph.Proofs.Store.Sessions

/-!
# Operations do not depend on their history

An operation in a run answers as it does alone on a fresh store, with the reply whose turn it is:
replies are taken by the operations that issue a statement, one by each and in order.  A failure
after the rows of a reply is the answer of its operation, whatever the rows are, and of no other.

## Main definitions

* `Operation.alone` — an operation on a fresh store with one reply.
* `Operation.issues` — whether an operation issues a statement.
* `Operation.turn` — how many operations of a run issue a statement before one of them.

## Main results

* `Store.answers_performAll`, `Store.statements_performAll` — a run as operations on their own.
* `Store.performAll_independent` — histories and failures of other operations do not matter.
-/

namespace PropertyGraph

namespace Operation

/-- An operation alone on a fresh store, on a database that has this one reply. -/
def alone (settings : Settings) (reply : Reply) (op : Operation) :
    Except Failure Answer × Store :=
  (Store.fresh settings [reply]).perform op

/-- Whether an operation issues a statement when it is alone. -/
def issues (settings : Settings) (op : Operation) : Bool :=
  !(op.alone settings {}).2.statements.isEmpty

/-- How many of the operations before the `i`-th one issue a statement. -/
def turn (settings : Settings) (ops : List Operation) (i : Nat) : Nat :=
  (ops.take i).countP (issues settings)

variable (settings : Settings) (reply : Reply) (op : Operation)

theorem alone_eq :
    op.alone settings reply = ((op.plan settings).answer reply,
      (Store.fresh settings [reply]).after (op.plan settings).statement?) :=
  Store.perform_eq rfl op

@[simp] theorem answer_alone : (op.alone settings reply).1 = (op.plan settings).answer reply := by
  rw [alone_eq]

@[simp] theorem statements_alone :
    (op.alone settings reply).2.statements = (op.plan settings).statement?.toList := by
  rw [alone_eq, Store.statements_after]
  rfl

theorem issues_eq : op.issues settings = (op.plan settings).statement?.isSome := by
  unfold issues
  rw [statements_alone]
  cases (op.plan settings).statement? <;> rfl

/-- Alone, an operation issues one statement or none. -/
theorem length_statements_alone :
    (op.alone settings reply).2.statements.length = if op.issues settings then 1 else 0 := by
  rw [statements_alone, issues_eq]
  cases (op.plan settings).statement? <;> rfl

variable {settings op}

/-- An operation that issues no statement takes no notice of replies. -/
theorem answer_congr (h : op.issues settings = false) (reply reply' : Reply) :
    (op.plan settings).answer reply = (op.plan settings).answer reply' := by
  rw [issues_eq] at h
  cases hplan : op.plan settings with
  | settled answer => rfl
  | query statement read =>
    rw [hplan] at h
    cases h

/-- **A failure after the rows is the answer**, whatever the rows are. -/
theorem answer_failure (h : op.issues settings = true) (rows : List Row) (text : String) :
    (op.plan settings).answer ⟨rows, some text⟩ = .error (.session text) := by
  rw [issues_eq] at h
  cases hplan : op.plan settings with
  | settled answer =>
    rw [hplan] at h
    cases h
  | query statement read => rfl

/-! ### Turns -/

@[simp] theorem turn_zero (settings : Settings) (ops : List Operation) : turn settings ops 0 = 0 :=
  rfl

theorem turn_cons_succ (settings : Settings) (op : Operation) (rest : List Operation) (i : Nat) :
    turn settings (op :: rest) (i + 1)
      = (op.plan settings).statement?.toList.length + turn settings rest i := by
  unfold turn
  rw [List.take_succ_cons, List.countP_cons, issues_eq, Nat.add_comm]
  cases (op.plan settings).statement? <;> rfl

/-- An operation that issues a statement has its turn before all later operations. -/
theorem turn_lt_turn {ops : List Operation} {i j : Nat} (hi : ops[i]? = some op)
    (h : op.issues settings = true) (hij : i < j) : turn settings ops i < turn settings ops j := by
  have hnext : turn settings ops (i + 1) = turn settings ops i + 1 := by
    unfold turn
    rw [List.take_add_one, hi, Option.toList_some, List.countP_append, List.countP_singleton,
      if_pos h]
  have hle : turn settings ops (i + 1) ≤ turn settings ops j :=
    (List.take_sublist_take_left hij).countP_le
  omega

/-- Two operations that issue a statement have different turns. -/
theorem turn_ne_turn {ops : List Operation} {op' : Operation} {i j : Nat}
    (hi : ops[i]? = some op) (h : op.issues settings = true) (hj : ops[j]? = some op')
    (h' : op'.issues settings = true) (hij : j ≠ i) :
    turn settings ops i ≠ turn settings ops j := by
  rcases Nat.lt_or_gt_of_ne hij with hlt | hlt
  · exact Nat.ne_of_gt (turn_lt_turn hj h' hlt)
  · exact Nat.ne_of_lt (turn_lt_turn hi h hlt)

/-- The operations of a run, each with the reply whose turn it is; an empty one when there are not
enough. -/
def withReplies (settings : Settings) (replies : List Reply) (ops : List Operation) :
    List (Operation × Reply) :=
  ops.mapIdx fun i op => (op, replies.getD (turn settings ops i) {})

theorem withReplies_cons (settings : Settings) (replies : List Reply) (op : Operation)
    (rest : List Operation) :
    withReplies settings replies (op :: rest) = (op, replies.headD {}) ::
      withReplies settings (replies.drop (op.plan settings).statement?.toList.length) rest := by
  unfold withReplies
  rw [List.mapIdx_cons, turn_zero, List.headD_eq_head?_getD, List.getD_eq_getElem?_getD,
    List.head?_eq_getElem?]
  simp only [turn_cons_succ, List.getD_eq_getElem?_getD, List.getElem?_drop]

theorem getElem?_withReplies (settings : Settings) (replies : List Reply) (ops : List Operation)
    (i : Nat) :
    (withReplies settings replies ops)[i]?
      = ops[i]?.map fun op => (op, replies.getD (turn settings ops i) {}) :=
  List.getElem?_mapIdx

end Operation

/-! ### Runs -/

namespace Store

variable {s : Store}

/-- **The answers of a run** are those of each operation alone, with the reply whose turn it is. -/
theorem answers_performAll (h : s.inSession = false) (ops : List Operation) :
    (s.performAll ops).1 = (Operation.withReplies s.settings s.replies ops).map
      fun p => (p.1.alone s.settings p.2).1 := by
  induction ops generalizing s with
  | nil => rfl
  | cons op rest ih =>
    have hstep := perform_eq h op
    have hrest := ih (s := (s.perform op).2) (by rw [hstep, inSession_after, h])
    show (s.perform op).1 :: ((s.perform op).2.performAll rest).1 = _
    rw [hrest, hstep, settings_after, replies_after, Operation.withReplies_cons, List.map_cons,
      Operation.answer_alone]

/-- **The statements of a run** are those of each operation alone, one after another. -/
theorem statements_performAll (h : s.inSession = false) (ops : List Operation) :
    (s.performAll ops).2.statements
      = s.statements ++ (Operation.withReplies s.settings s.replies ops).flatMap
          fun p => (p.1.alone s.settings p.2).2.statements := by
  induction ops generalizing s with
  | nil => exact (List.append_nil _).symm
  | cons op rest ih =>
    have hstep := perform_eq h op
    have hrest := ih (s := (s.perform op).2) (by rw [hstep, inSession_after, h])
    show ((s.perform op).2.performAll rest).2.statements = _
    rw [hrest, hstep, settings_after, replies_after, statements_after, Operation.withReplies_cons,
      List.flatMap_cons, Operation.statements_alone, List.append_assoc]

/-! ### Other replies -/

section

variable {settings : Settings} {replies : List Reply} {ops : List Operation}

/-- One answer of a run on a fresh store. -/
theorem getElem?_answers (i : Nat) :
    ((fresh settings replies).performAll ops).1[i]? = ops[i]?.map fun op =>
      (op.plan settings).answer (replies.getD (Operation.turn settings ops i) {}) := by
  rw [answers_performAll rfl, List.getElem?_map, Operation.getElem?_withReplies, Option.map_map]
  exact congrArg (ops[i]?.map ·) (funext fun op => Operation.answer_alone settings _ op)

/-- The statements of a run on a fresh store do not depend on the replies. -/
theorem statements_fresh :
    ((fresh settings replies).performAll ops).2.statements
      = ops.flatMap fun op => (op.plan settings).statement?.toList := by
  rw [statements_performAll rfl]
  show (Operation.withReplies settings replies ops).flatMap
    (fun p => (p.1.alone settings p.2).2.statements) = _
  induction ops generalizing replies with
  | nil => rfl
  | cons op rest ih =>
    rw [Operation.withReplies_cons, List.flatMap_cons, List.flatMap_cons, ih,
      Operation.statements_alone]

/-- A reply is taken note of by the operation whose turn it is, and by no other. -/
theorem getElem?_answers_set {op : Operation} {i j : Nat} (hi : ops[i]? = some op)
    (h : op.issues settings = true) (hij : j ≠ i) (other : Reply) :
    ((fresh settings (replies.set (Operation.turn settings ops i) other)).performAll ops).1[j]?
      = ((fresh settings replies).performAll ops).1[j]? := by
  rw [getElem?_answers, getElem?_answers]
  cases hj : ops[j]? with
  | none => rfl
  | some op' =>
    rw [Option.map_some, Option.map_some]
    cases h' : op'.issues settings with
    | false => rw [Operation.answer_congr h']
    | true =>
      have hturn := Operation.turn_ne_turn hi h hj h' hij
      rw [List.getD_eq_getElem?_getD, List.getElem?_set_ne hturn, ← List.getD_eq_getElem?_getD]

end

/-- **Operations do not depend on their history.**  The answers and the statements of a run on a
fresh store are those of each operation alone, with the reply at its turn; alone, an operation
issues one statement or none, and its turn counts the operations before it that issue one.  When the
reply of an operation that issues a statement ends with a failure, then the operation has this
failure for an answer, whatever the rows in front of it are.  Any other reply in its place leaves
the other answers, and all statements, as they are. -/
theorem performAll_independent (settings : Settings) (replies : List Reply)
    (ops : List Operation) :
    let run := (fresh settings replies).performAll ops
    let turns := Operation.withReplies settings replies ops
    run.1 = turns.map (fun p => (p.1.alone settings p.2).1) ∧
    run.2.statements = turns.flatMap (fun p => (p.1.alone settings p.2).2.statements) ∧
    (∀ (op : Operation) (reply : Reply), (op.alone settings reply).2.statements.length
      = if op.issues settings then 1 else 0) ∧
    ∀ (i : Nat) (op : Operation), ops[i]? = some op → op.issues settings = true →
      ∀ (rows : List Row) (text : String),
        replies[Operation.turn settings ops i]? = some ⟨rows, some text⟩ →
        run.1[i]? = some (.error (.session text)) ∧
        ∀ other : Reply,
          let run' :=
            (fresh settings (replies.set (Operation.turn settings ops i) other)).performAll ops
          run'.2.statements = run.2.statements ∧ ∀ j, j ≠ i → run'.1[j]? = run.1[j]? := by
  intro run turns
  refine ⟨answers_performAll rfl ops, statements_performAll rfl ops, fun op reply =>
    Operation.length_statements_alone settings reply op, ?_⟩
  intro i op hi h rows text hreply
  refine ⟨?_, fun other => ⟨?_, fun j hij => getElem?_answers_set hi h hij other⟩⟩
  · show ((fresh settings replies).performAll ops).1[i]? = _
    rw [getElem?_answers, hi, Option.map_some, List.getD_eq_getElem?_getD, hreply, Option.getD_some,
      Operation.answer_failure h]
  · exact statements_fresh.trans statements_fresh.symm

/-- A search for nothing, a look-up and a deletion. -/
def threeSteps : List Operation :=
  [.findNodes { paging := some (.first 0) }, .lookUpNode ⟨1⟩, .deleteNode ⟨2⟩]

/-- A row of a wrong kind before a failure, and then a number of deleted nodes. -/
def twoReplies : List Reply :=
  [⟨[⟨[("n", .int 3)]⟩], some "connection lost"⟩, ⟨[⟨[("count", .int 1)]⟩], none⟩]

/-- The search takes no reply, so that the look-up has the first one.  Its failure is the answer,
not the row of a wrong kind, and the deletion takes no notice. -/
theorem performAll_independent_threeSteps :
    threeSteps[1]? = some (.lookUpNode ⟨1⟩) ∧
    (Operation.lookUpNode ⟨1⟩).issues {} = true ∧
    Operation.turn {} threeSteps 1 = 0 ∧
    ((fresh {} twoReplies).performAll threeSteps).1[1]?
      = some (.error (.session "connection lost")) ∧
    ∀ other, ((fresh {} (twoReplies.set 0 other)).performAll threeSteps).1[2]?
      = ((fresh {} twoReplies).performAll threeSteps).1[2]? := by
  have hturn : Operation.turn {} threeSteps 1 = 0 := by decide
  obtain ⟨-, -, -, hfailure⟩ := performAll_independent {} twoReplies threeSteps
  obtain ⟨hanswer, hothers⟩ := hfailure 1 (.lookUpNode ⟨1⟩) rfl rfl [⟨[("n", .int 3)]⟩]
    "connection lost" (by rw [hturn]; rfl)
  refine ⟨rfl, rfl, hturn, hanswer, fun other => ?_⟩
  rw [← hturn]
  exact (hothers other).2 2 (by decide)

end Store

end PropertyGraph
