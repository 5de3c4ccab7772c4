import PropertyGraph.Store.Run
import PropertyGraph.Proofs.Store.Reading

/-!
# Sessions over whole runs

A store between operations is idle: it holds no session, and the database has seen one whole
session for each statement.  An operation takes an idle store to an idle store, whatever its
outcome, and runs at most one statement on the way.

## Main definitions

* `Store.fresh` — a store that has done nothing yet.
* `Store.opened`, `Store.closed`, `Store.statements` — what the database has seen.
* `Store.Idle` — a store between operations.
* `Plan.answer`, `Store.after` — what a plan answers to a reply, and the store after it.
* `Operation.AsksForNothing`, `Operation.IsRefused` — the two ways to need no statement.

## Main results

* `Store.carryOut_eq` — what carrying out a plan does to an idle store.
* `Store.Idle.performAll` — a run takes an idle store to an idle store.
* `Operation.statement?_eq_none_iff` — which operations run no statement.
* `Store.sessions_balanced` — after every operation of a run, each session has been opened for one
  statement and closed again.
-/

namespace PropertyGraph

/-! ### What the database has seen -/

namespace Event

/-- What the database sees of one statement. -/
def session (statement : Statement) : List Event :=
  [.opened, .ran statement, .closed]

/-- The statement that was run, if this is what the database has seen. -/
def statement? : Event → Option Statement
  | .ran statement => some statement
  | _ => none

/-- Whether a session was opened. -/
def isOpened : Event → Bool
  | .opened => true
  | _ => false

/-- Whether a session was closed. -/
def isClosed : Event → Bool
  | .closed => true
  | _ => false

theorem countP_isOpened_sessions (statements : List Statement) :
    (statements.flatMap session).countP isOpened = statements.length := by
  induction statements with
  | nil => rfl
  | cons statement rest ih =>
    rw [List.flatMap_cons, List.countP_append, ih, List.length_cons, Nat.add_comm]
    rfl

theorem countP_isClosed_sessions (statements : List Statement) :
    (statements.flatMap session).countP isClosed = statements.length := by
  induction statements with
  | nil => rfl
  | cons statement rest ih =>
    rw [List.flatMap_cons, List.countP_append, ih, List.length_cons, Nat.add_comm]
    rfl

end Event

namespace Store

/-- A store that has done nothing yet, on a database with a script of replies. -/
def fresh (settings : Settings) (replies : List Reply) : Store :=
  { settings, replies }

/-- How many sessions have been opened. -/
def opened (s : Store) : Nat :=
  s.events.countP Event.isOpened

/-- How many sessions have been closed. -/
def closed (s : Store) : Nat :=
  s.events.countP Event.isClosed

/-- The statements that have been run, in order. -/
def statements (s : Store) : List Statement :=
  s.events.filterMap Event.statement?

/-- A store between operations. -/
structure Idle (s : Store) : Prop where
  /-- The store holds no session. -/
  noSession : s.inSession = false
  /-- The database has seen one whole session for each statement, one after another. -/
  events : s.events = s.statements.flatMap Event.session

theorem idle_fresh (settings : Settings) (replies : List Reply) : (fresh settings replies).Idle :=
  ⟨rfl, rfl⟩

variable {s : Store}

theorem Idle.opened (h : s.Idle) : s.opened = s.statements.length := by
  rw [Store.opened, h.events, Event.countP_isOpened_sessions]

theorem Idle.closed (h : s.Idle) : s.closed = s.statements.length := by
  rw [Store.closed, h.events, Event.countP_isClosed_sessions]

/-- The store after a statement in a session of its own, or after none. -/
def after (s : Store) : Option Statement → Store
  | none => s
  | some statement =>
    { s with replies := s.replies.tail, events := s.events ++ Event.session statement }

@[simp] theorem settings_after (s : Store) (ran : Option Statement) :
    (s.after ran).settings = s.settings := by
  cases ran <;> rfl

@[simp] theorem inSession_after (s : Store) (ran : Option Statement) :
    (s.after ran).inSession = s.inSession := by
  cases ran <;> rfl

theorem replies_after (s : Store) (ran : Option Statement) :
    (s.after ran).replies = s.replies.drop ran.toList.length := by
  cases ran with
  | none => rfl
  | some statement => exact List.drop_one.symm

theorem statements_after (s : Store) (ran : Option Statement) :
    (s.after ran).statements = s.statements ++ ran.toList := by
  cases ran with
  | none => exact (List.append_nil _).symm
  | some statement => exact List.filterMap_append

theorem Idle.after (h : s.Idle) (ran : Option Statement) : (s.after ran).Idle where
  noSession := by rw [inSession_after, h.noSession]
  events := by
    rw [statements_after, List.flatMap_append, ← h.events]
    cases ran with
    | none => exact (List.append_nil _).symm
    | some statement => rfl

end Store

/-! ### One operation -/

/-- What a plan answers when the database gives this reply to its statement. -/
def Plan.answer {α : Type} (reply : Reply) : Plan α → Except Failure α
  | .settled answer => answer
  | .query _ read => reply.outcome.bind read

namespace Store

variable {s : Store} {α : Type}

/-- **What carrying out a plan does**: it answers from the next reply, and leaves a whole session
behind when it has run a statement. -/
theorem carryOut_eq (h : s.inSession = false) (plan : Plan α) :
    s.carryOut plan = (plan.answer (s.replies.headD {}), s.after plan.statement?) := by
  cases plan with
  | settled answer => rfl
  | query statement read =>
    simp [carryOut, runInSession, openSession, submit, closeSession, h, Plan.answer,
      Plan.statement?, after, Event.session]

theorem perform_eq (h : s.inSession = false) (op : Operation) :
    s.perform op = ((op.plan s.settings).answer (s.replies.headD {}),
      s.after (op.plan s.settings).statement?) :=
  carryOut_eq h _

theorem Idle.perform (h : s.Idle) (op : Operation) : (s.perform op).2.Idle := by
  rw [perform_eq h.noSession]
  exact h.after _

/-! ### Whole runs -/

theorem performAll_append (s : Store) (ops later : List Operation) :
    s.performAll (ops ++ later) =
      ((s.performAll ops).1 ++ ((s.performAll ops).2.performAll later).1,
        ((s.performAll ops).2.performAll later).2) := by
  induction ops generalizing s with
  | nil => rfl
  | cons op rest ih =>
    show ((s.perform op).1 :: ((s.perform op).2.performAll (rest ++ later)).1,
      ((s.perform op).2.performAll (rest ++ later)).2) = _
    rw [ih]
    rfl

theorem settings_performAll (h : s.inSession = false) (ops : List Operation) :
    (s.performAll ops).2.settings = s.settings := by
  induction ops generalizing s with
  | nil => rfl
  | cons op rest ih =>
    have hnext : (s.perform op).2 = s.after (op.plan s.settings).statement? := by
      rw [perform_eq h]
    show ((s.perform op).2.performAll rest).2.settings = s.settings
    rw [hnext, ih (by rw [inSession_after, h]), settings_after]

/-- A run takes an idle store to an idle store. -/
theorem Idle.performAll (h : s.Idle) (ops : List Operation) : (s.performAll ops).2.Idle := by
  induction ops generalizing s with
  | nil => exact h
  | cons op rest ih => exact ih (h.perform op)

/-- One more operation at the end of a run answers from some reply, and runs the statement of its
plan. -/
theorem Idle.performAll_concat (h : s.Idle) (ops : List Operation) (op : Operation) :
    ∃ reply, s.performAll (ops ++ [op])
      = ((s.performAll ops).1 ++ [(op.plan s.settings).answer reply],
        (s.performAll ops).2.after (op.plan s.settings).statement?) := by
  have hlast := perform_eq (h.performAll ops).noSession op
  rw [settings_performAll h.noSession] at hlast
  refine ⟨(s.performAll ops).2.replies.headD {}, ?_⟩
  rw [performAll_append]
  show ((s.performAll ops).1 ++ [((s.performAll ops).2.perform op).1],
    ((s.performAll ops).2.perform op).2) = _
  rw [hlast]

end Store

/-! ### Plans with and without a statement -/

namespace Plan

variable {α β : Type}

@[simp] theorem statement?_map (f : α → β) (plan : Plan α) :
    (plan.map f).statement? = plan.statement? := by
  cases plan <;> rfl

@[simp] theorem answer_map (f : α → β) (plan : Plan α) (reply : Reply) :
    (plan.map f).answer reply = (plan.answer reply).map f := by
  cases plan with
  | settled answer => rfl
  | query statement read =>
    show (reply.outcome.bind fun rows => (read rows).map f) = (reply.outcome.bind read).map f
    cases reply.outcome <;> rfl

theorem any_asksNothing_iff {paging : Option Paging} :
    paging.any (·.asksNothing) = true ↔ ∃ page, paging = some page ∧ page.limit = some 0 := by
  cases paging <;> simp [Paging.asksNothing]

theorem paged_of_limit_zero {paging : Option Paging}
    (h : ∃ page, paging = some page ∧ page.limit = some 0) (plan : Plan α) :
    paged paging plan = .settled (.ok none) :=
  if_pos (any_asksNothing_iff.mpr h)

theorem paged_of_limit_ne_zero {paging : Option Paging}
    (h : ¬∃ page, paging = some page ∧ page.limit = some 0) (plan : Plan α) :
    paged paging plan = plan.map some :=
  if_neg fun hany => h (any_asksNothing_iff.mp hany)

/-- A plan that runs a statement, and whose answer is never that a criterion is missing. -/
structure Asks (plan : Plan α) : Prop where
  /-- The plan runs a statement. -/
  statement : ∃ statement, plan.statement? = some statement
  /-- No reply makes the plan refuse the operation. -/
  answer_ne : ∀ reply check, plan.answer reply ≠ .error (.noCriterion check)

/-- A statement whose rows can only hold values of another kind is not refused. -/
theorem asks_query (statement : Statement) {read : List Row → Except Failure α}
    (h : ∀ rows f, read rows = .error f → ∃ column expected found,
      f = .wrongKind column expected found) : (query statement read).Asks where
  statement := ⟨statement, rfl⟩
  answer_ne := by
    intro reply check heq
    replace heq : reply.outcome.bind read = .error (.noCriterion check) := heq
    unfold Reply.outcome at heq
    cases hfailure : reply.failure with
    | some text =>
      rw [hfailure] at heq
      cases heq
    | none =>
      rw [hfailure] at heq
      obtain ⟨column, expected, found, hwrong⟩ := h reply.rows _ heq
      cases hwrong

theorem Asks.map {plan : Plan α} (h : plan.Asks) (f : α → β) : (plan.map f).Asks where
  statement := by
    rw [statement?_map]
    exact h.statement
  answer_ne := by
    intro reply check heq
    rw [answer_map] at heq
    cases hanswer : plan.answer reply with
    | error failure =>
      rw [hanswer] at heq
      cases heq
      exact h.answer_ne reply check hanswer
    | ok x =>
      rw [hanswer] at heq
      cases heq

theorem asks_first {e : Reader α} (statement : Statement) (column : String) :
    (query statement (e.first column)).Asks :=
  asks_query statement fun _ _ h => by
    obtain ⟨found, hfound⟩ := Reader.first_eq_error h
    exact ⟨_, _, found, hfound⟩

theorem asks_every {e : Reader α} (statement : Statement) (column : String) :
    (query statement (e.every column)).Asks :=
  asks_query statement fun _ _ h => by
    obtain ⟨found, hfound⟩ := Reader.every_eq_error h
    exact ⟨_, _, found, hfound⟩

theorem asks_paged_probePage {plan : Plan α} (h : plan.Asks) :
    (paged (some probePage) plan).Asks := by
  rw [paged_of_limit_ne_zero (by decide)]
  exact h.map some

/-- A check for a node is refused or asks the database. -/
theorem nodeExists_eq_or_asks (r : NodeProbe) :
    nodeExists r = .settled (.error (.noCriterion .node)) ∨ (nodeExists r).Asks := by
  unfold nodeExists
  split
  · exact .inr ((asks_first _ _).map _)
  · split
    · exact .inr ((asks_paged_probePage (asks_every _ _)).map _)
    · exact .inl rfl

/-- A check for a relationship is refused or asks the database. -/
theorem relationExists_eq_or_asks (r : RelationProbe) :
    relationExists r = .settled (.error (.noCriterion .relation)) ∨ (relationExists r).Asks := by
  unfold relationExists
  split
  · exact .inr ((asks_first _ _).map _)
  · split
    · exact .inr ((asks_paged_probePage (asks_every _ _)).map _)
    · exact .inl rfl

end Plan

/-! ### Operations without a statement -/

namespace Operation

/-- The page that a search asks for, in the five searches that list a page. -/
def page? : Operation → Option Paging
  | findNodes r => r.paging
  | findRelations r => r.paging
  | findSources r => r.paging
  | findTargets r => r.paging
  | findNeighbours r => r.paging
  | _ => none

/-- A search for a page without any items. -/
def AsksForNothing (op : Operation) : Prop :=
  ∃ page, op.page? = some page ∧ page.limit = some 0

/-- The answer of a search that has no list to give. -/
def noList : Operation → Answer
  | findRelations _ => .relations none
  | _ => .nodes none

/-- The check for existence that an operation makes. -/
def check? : Operation → Option Check
  | nodeExists _ => some .node
  | relationExists _ => some .relation
  | _ => none

/-- A check for existence whose answer is that a criterion is missing. -/
def IsRefused (op : Operation) (answer : Except Failure Answer) : Prop :=
  ∃ check, op.check? = some check ∧ answer = .error (.noCriterion check)

variable {op : Operation}

theorem check?_of_asksForNothing (h : op.AsksForNothing) : op.check? = none := by
  obtain ⟨page, hpage, -⟩ := h
  cases op with
  | nodeExists r => cases hpage
  | relationExists r => cases hpage
  | _ => rfl

variable (settings : Settings)

/-- An operation that is no check for existence asks for its page, or has none and asks at once. -/
theorem plan_eq_paged (h : op.check? = none) :
    (∃ (α : Type) (statement : Statement) (read : List Row → Except Failure α)
      (give : Option α → Answer), give none = op.noList ∧
      op.plan settings = (Plan.paged op.page? (.query statement read)).map give) ∨
    op.page? = none ∧ ∃ statement, (op.plan settings).statement? = some statement := by
  cases op with
  | findNodes r => exact .inl ⟨_, _, _, .nodes, rfl, rfl⟩
  | findRelations r => exact .inl ⟨_, _, _, .relations, rfl, rfl⟩
  | findSources r => exact .inl ⟨_, _, _, .nodes, rfl, rfl⟩
  | findTargets r => exact .inl ⟨_, _, _, .nodes, rfl, rfl⟩
  | findNeighbours r => exact .inl ⟨_, _, _, .nodes, rfl, rfl⟩
  | nodeExists r => cases h
  | relationExists r => cases h
  | _ => exact .inr ⟨rfl, _, rfl⟩

/-- A search for nothing is answered at once, and not with a list. -/
theorem plan_of_asksForNothing (h : op.AsksForNothing) :
    op.plan settings = .settled (.ok op.noList) := by
  obtain ⟨α, statement, read, give, hnone, hplan⟩ | ⟨hpage, -⟩ :=
    plan_eq_paged settings (check?_of_asksForNothing h)
  · rw [hplan, Plan.paged_of_limit_zero h, ← hnone]
    rfl
  · obtain ⟨page, hsome, -⟩ := h
    rw [hpage] at hsome
    cases hsome

/-- Every other operation that is no check for existence runs a statement. -/
theorem exists_statement (h : ¬op.AsksForNothing) (hcheck : op.check? = none) :
    ∃ statement, (op.plan settings).statement? = some statement := by
  obtain ⟨α, statement, read, give, -, hplan⟩ | ⟨-, hstatement⟩ := plan_eq_paged settings hcheck
  · refine ⟨statement, ?_⟩
    rw [hplan, Plan.paged_of_limit_ne_zero h, Plan.statement?_map, Plan.statement?_map]
    rfl
  · exact hstatement

/-- A check for existence is refused or asks the database. -/
theorem plan_of_check {check : Check} (h : op.check? = some check) :
    op.plan settings = .settled (.error (.noCriterion check)) ∨ (op.plan settings).Asks := by
  cases op with
  | nodeExists r =>
    cases h
    obtain hrefused | hasks := Plan.nodeExists_eq_or_asks r
    · left
      simp only [plan, hrefused]
      rfl
    · exact .inr (hasks.map _)
  | relationExists r =>
    cases h
    obtain hrefused | hasks := Plan.relationExists_eq_or_asks r
    · left
      simp only [plan, hrefused]
      rfl
    · exact .inr (hasks.map _)
  | _ => cases h

/-- **Which operations run no statement**: searches for nothing, and checks for existence that are
refused. -/
theorem statement?_eq_none_iff (reply : Reply) :
    (op.plan settings).statement? = none
      ↔ op.AsksForNothing ∨ op.IsRefused ((op.plan settings).answer reply) := by
  by_cases hnothing : op.AsksForNothing
  · rw [plan_of_asksForNothing settings hnothing]
    exact ⟨fun _ => .inl hnothing, fun _ => rfl⟩
  cases hcheck : op.check? with
  | none =>
    obtain ⟨statement, hstatement⟩ := exists_statement settings hnothing hcheck
    simp [hstatement, hnothing, IsRefused, hcheck]
  | some check =>
    obtain hrefused | hasks := plan_of_check settings hcheck
    · rw [hrefused]
      exact ⟨fun _ => .inr ⟨check, hcheck, rfl⟩, fun _ => rfl⟩
    · obtain ⟨statement, hstatement⟩ := hasks.statement
      rw [hstatement]
      constructor
      · intro h
        cases h
      · rintro (h | ⟨check', -, hanswer⟩)
        · exact absurd h hnothing
        · exact absurd hanswer (hasks.answer_ne reply check')

end Operation

/-! ### The life of sessions -/

namespace Store

/-- **Sessions are balanced.**  After every operation of a run on a fresh store, whatever its
answer, the store holds no session, and as many sessions have been opened as closed and as
statements run.  The operation has added one of each or none.  It has added none exactly when it is
a search for nothing, which is answered without a list, or a check for existence that is refused. -/
theorem sessions_balanced (settings : Settings) (replies : List Reply) (earlier : List Operation)
    (op : Operation) :
    let before := (fresh settings replies).performAll earlier
    let after := (fresh settings replies).performAll (earlier ++ [op])
    after.2.inSession = false ∧
    after.2.opened = after.2.closed ∧
    after.2.opened = after.2.statements.length ∧
    ∃ answer, after.1 = before.1 ++ [answer] ∧
    (op.AsksForNothing → answer = .ok op.noList) ∧
    ∃ added, (added = 0 ∨ added = 1) ∧
      after.2.opened = before.2.opened + added ∧
      after.2.closed = before.2.closed + added ∧
      after.2.statements.length = before.2.statements.length + added ∧
      (added = 0 ↔ op.AsksForNothing ∨ op.IsRefused answer) := by
  intro before after
  have hfresh := idle_fresh settings replies
  have hbefore : before.2.Idle := hfresh.performAll earlier
  have hafter : after.2.Idle := hfresh.performAll (earlier ++ [op])
  obtain ⟨reply, hlast⟩ : ∃ reply, after = (before.1 ++ [(op.plan settings).answer reply],
      before.2.after (op.plan settings).statement?) := hfresh.performAll_concat earlier op
  have hstatements : after.2.statements
      = before.2.statements ++ (op.plan settings).statement?.toList := by
    rw [hlast, statements_after]
  refine ⟨hafter.noSession, ?_, hafter.opened, (op.plan settings).answer reply, by rw [hlast], ?_,
    (op.plan settings).statement?.toList.length, ?_, ?_, ?_, ?_, ?_⟩
  · rw [hafter.opened, hafter.closed]
  · intro h
    rw [Operation.plan_of_asksForNothing settings h]
    rfl
  · cases (op.plan settings).statement? with
    | none => exact .inl rfl
    | some statement => exact .inr rfl
  · rw [hafter.opened, hbefore.opened, hstatements, List.length_append]
  · rw [hafter.closed, hbefore.closed, hstatements, List.length_append]
  · rw [hstatements, List.length_append]
  · rw [← Operation.statement?_eq_none_iff]
    cases (op.plan settings).statement? <;> simp

/-- A look-up that fails, a search for nothing and a check that is refused. -/
example : let s := ((fresh {} [⟨[], some "connection lost"⟩]).performAll
      [.lookUpNode ⟨1⟩, .findNodes { paging := some (.first 0) }, .nodeExists {}]).2
    (s.opened, s.closed, s.statements.length) = (1, 1, 1) := by
  decide

end Store

end PropertyGraph
