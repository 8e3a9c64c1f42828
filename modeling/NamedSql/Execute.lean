import NamedSql.Batch
import NamedSql.Cursor

/-!
Running one statement with a parameter list. What a call will do is planned
without the database: the kind is checked, the clauses are settled, and the
parameters are arranged and bound. Only a plan reaches the backend. Failures
name the statement.
-/

namespace NamedSql

namespace Statement

/-- Settles the clauses of a statement that has any, by the names that the
parameters supply. -/
def settled (dialect : Dialect) (s : Statement) (parameters : List Param) :
    Except Cause Statement :=
  if s.hasCondition then
    match presenceOf parameters with
    | .error e => .error (.param e)
    | .ok presence => (s.refine dialect presence).mapError Cause.statement
  else .ok s

/-- Binds one call. Without parameters there are no arguments, whatever the
columns. -/
def bind (dialect : Dialect) (s : Statement) :
    Arrangement → Except Cause Binding
  | .empty => .ok ⟨s.resolved, []⟩
  | .positional values => s.bindPositional dialect values
  | .named values _ => s.bindNamed dialect values
  | .rows _ => .error (.param (.listElement "batch"))

end Statement

/-- What a call does: one binding, or a batch of rows. -/
inductive Plan where
  | single (s : Statement) (binding : Binding)
  | batch (s : Statement) (rows : List Param)

namespace Plan

def bindOrBatch (dialect : Dialect) (s : Statement) :
    Arrangement → Except Cause Plan
  | .rows rows => .ok (.batch s rows)
  | arrangement => .single s <$> s.bind dialect arrangement

/-- The plan of an execution. -/
def execution (dialect : Dialect) (s : Statement) (parameters : List Param) :
    Except Cause Plan := do
  if !s.kind.isWrite then throw (.statement .notExecutable)
  let s ← s.settled dialect parameters
  match Arrangement.classify s parameters .execute with
  | .error e => throw (.param e)
  | .ok arrangement => bindOrBatch dialect s arrangement

/-- The plan of an execution for a list of rows, none of which settles a
clause. -/
def rows (dialect : Dialect) (s : Statement) (rows : List Param) :
    Except Cause Plan := do
  if !s.kind.isWrite then throw (.statement .notExecutable)
  let s ← s.settled dialect []
  return .batch s rows

/-- The settled statement and the binding of a query. -/
def query (dialect : Dialect) (s : Statement) (parameters : List Param) :
    Except Cause (Statement × Binding) := do
  if s.kind != .select then throw (.statement .notQueryable)
  let s ← s.settled dialect parameters
  match Arrangement.classify s parameters .query with
  | .error e => throw (.param e)
  | .ok arrangement =>
      let binding ← s.bind dialect arrangement
      return (s, binding)

end Plan

/-- The tally of a single execution: its id counts for inserts only. -/
def Outcome.tally (kind : StatementKind) (outcome : Outcome) : Tally :=
  Tally.empty.push (if kind = .insert then outcome.insertId else none)
    outcome.rows

namespace Session

variable {σ : Type}

def printCall (s : Statement) (binding : Binding) : Action σ Unit :=
  print (Statement.callLine s.id binding.sql ++
    Statement.argumentLine s.id binding.arguments)

/-- Carries out a plan; a single execution is recorded if it succeeds. -/
def carryOut (backend : Backend σ) : Plan → Action σ (Except Failure Tally)
  | .batch s rows => Batch.execute backend s rows
  | .single s binding => do
      printCall s binding
      let start ← time backend
      match ← exec backend binding.sql binding.arguments with
      | .error e => return .error (.plain (.driver e))
      | .ok outcome =>
          record backend s.id start
          return .ok (outcome.tally s.kind)

/-- Plans a call and carries it out. -/
def run (backend : Backend σ) (s : Statement) (planned : Except Cause Plan) :
    Action σ (Except Failure Tally) := do
  match planned with
  | .error cause => return .error (Failure.inStatement s.id (.plain cause))
  | .ok plan =>
      return (← carryOut backend plan).mapError (Failure.inStatement s.id)

def execute (backend : Backend σ) (dialect : Dialect) (s : Statement)
    (parameters : List Param) : Action σ (Except Failure Tally) :=
  run backend s (Plan.execution dialect s parameters)

def executeRows (backend : Backend σ) (dialect : Dialect) (s : Statement)
    (rows : List Param) : Action σ (Except Failure Tally) :=
  run backend s (Plan.rows dialect s rows)

/-- Opens a cursor. A query is recorded even if the backend fails it. -/
def openCursor (backend : Backend σ) (dialect : Dialect) (naming : Naming)
    (s : Statement) (parameters : List Param) :
    Action σ (Except Failure Cursor) := do
  match Plan.query dialect s parameters with
  | .error cause => return .error (Failure.inStatement s.id (.plain cause))
  | .ok (settled, binding) =>
      printCall settled binding
      let start ← time backend
      let opened ← query backend binding.sql binding.arguments
      record backend settled.id start
      match opened with
      | .error e =>
          return .error (Failure.inStatement s.id (.plain (.driver e)))
      | .ok opened => return .ok (.ofQuery naming opened)

end Session

end NamedSql
