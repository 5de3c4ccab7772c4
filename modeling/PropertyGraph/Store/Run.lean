import PropertyGraph.Store.Operation

/-!
# Running operations

A store runs the statements of its operations, each in a session of its own: the session is opened
when the statement is there, and closed when all its rows are read, whether it failed or not.  The
database is a script of replies, one for each statement; when there are no more, the replies are
empty.  What the database sees is kept as a list of events.

## Main definitions

* `Reply` — what the database answers to one statement.
* `Event` — what the database sees.
* `Store` — the settings, the replies to come, the session and the events.
* `Store.runInSession` — one statement in a session of its own.
* `Store.carryOut`, `Store.perform`, `Store.performAll` — a plan, an operation, and several of them.
-/

namespace PropertyGraph

/-- What the database answers to one statement: rows, and then perhaps a failure. -/
structure Reply where
  /-- The rows. -/
  rows : List Row := []
  /-- The text of the failure after the rows, if there is one. -/
  failure : Option String := none
  deriving Inhabited

/-- All the rows of a reply, or the failure. -/
def Reply.outcome (r : Reply) : Except Failure (List Row) :=
  match r.failure with
  | none => .ok r.rows
  | some text => .error (.session text)

/-- What the database sees. -/
inductive Event where
  /-- A session is opened. -/
  | opened
  /-- A statement is run. -/
  | ran (statement : Statement)
  /-- A session is closed. -/
  | closed

/-- A store on a database that answers from a script. -/
structure Store where
  /-- The settings. -/
  settings : Settings := {}
  /-- The replies to come, one for each statement. -/
  replies : List Reply := []
  /-- Whether the store holds a session. -/
  inSession : Bool := false
  /-- What the database has seen, in order. -/
  events : List Event := []
  deriving Inhabited

namespace Store

variable {α : Type}

/-- The store with one reply more at the end of the script. -/
def script (s : Store) (reply : Reply) : Store :=
  { s with replies := s.replies ++ [reply] }

/-- The store with a session: the one it holds, or a new one. -/
def openSession (s : Store) : Store :=
  if s.inSession then s else { s with inSession := true, events := s.events ++ [.opened] }

/-- The store without a session; one that it holds is closed. -/
def closeSession (s : Store) : Store :=
  if s.inSession then { s with inSession := false, events := s.events ++ [.closed] } else s

/-- Runs a statement in the session: the next reply, and the store after it. -/
def submit (s : Store) (statement : Statement) : Reply × Store :=
  (s.replies.headD {},
    { s with replies := s.replies.tail, events := s.events ++ [.ran statement] })

/-- Runs a statement in a session of its own, which is closed whatever the outcome. -/
def runInSession (s : Store) (statement : Statement) : Except Failure (List Row) × Store :=
  let (reply, s) := s.openSession.submit statement
  (reply.outcome, s.closeSession)

/-- Carries out a plan: its answer, or the failure, and the store after it. -/
def carryOut (s : Store) : Plan α → Except Failure α × Store
  | .settled answer => (answer, s)
  | .query statement read =>
    let (outcome, s) := s.runInSession statement
    (outcome.bind read, s)

/-- Performs an operation. -/
def perform (s : Store) (operation : Operation) : Except Failure Answer × Store :=
  s.carryOut (operation.plan s.settings)

/-- Performs operations one after another, whatever their outcomes. -/
def performAll (s : Store) : List Operation → List (Except Failure Answer) × Store
  | [] => ([], s)
  | operation :: rest =>
    let (answer, s) := s.perform operation
    let (answers, s) := s.performAll rest
    (answer :: answers, s)

end Store

end PropertyGraph
