import NamedSql.Session.Basic
import NamedSql.Text.Quoted

/-!
Running SQL where the session's scope sends it. Outside a transaction a query
with arguments prepares a statement of its own, which whoever opened the cursor
has to close. A transaction prepares each text once and keeps the statement, so
nothing that is read in it owns one.
-/

namespace NamedSql

/-- A query that has been answered: its cursor's number, its result, and the
statement that is to be closed with the cursor. -/
structure OpenedQuery where
  cursor : Nat
  result : ResultSet
  statement : Option Prepared
deriving DecidableEq, Repr

def OpenedQuery.describe (opened : OpenedQuery) : String :=
  "QueryCursor \x7b columns: " ++
    Text.bracketed (opened.result.columns.map Text.quoted) ++
    ", owns_statement: " ++ toString opened.statement.isSome ++ " \x7d"

namespace Session

variable {σ : Type}

def inTransaction : Action σ Bool :=
  fun session => (session.scope.isTransaction, session)

def exec (backend : Backend σ) (sql : String) (arguments : List Value) :
    Action σ (Except DriverError Outcome) := do
  ask backend (.exec (← inTransaction) sql arguments)

/-- Prepares a statement, whatever the scope holds. -/
def prepareNew (backend : Backend σ) (inTransaction : Bool) (sql : String) :
    Action σ (Except DriverError Prepared) := do
  let statement : Prepared := ⟨← nextNumber, sql, inTransaction⟩
  match ← ask backend (.prepare statement) with
  | .error e => return .error e
  | .ok _ => return .ok statement

/-- Prepares a statement, or finds the one that the transaction holds. A failure
is not kept. -/
def prepare (backend : Backend σ) (sql : String) :
    Action σ (Except DriverError Prepared) := do
  match (← get).scope with
  | .direct => prepareNew backend false sql
  | .transaction prepared =>
      match prepared.find? (·.sql == sql) with
      | some statement => return .ok statement
      | none =>
          match ← prepareNew backend true sql with
          | .error e => return .error e
          | .ok statement =>
              modify
                ({ · with scope := .transaction (prepared ++ [statement]) })
              return .ok statement

/-- Gives a statement back. One that a transaction holds stays open until the
transaction ends. -/
def release (backend : Backend σ) (statement : Prepared) :
    Action σ (Except DriverError Unit) :=
  if statement.inTransaction then return .ok ()
  else ask backend (.closeStatement statement)

/-- Gives a statement back; a failure is only worth a warning. -/
def releaseOrWarn (backend : Backend σ) (statement : Prepared)
    (warning : String) :
    Action σ Unit := do
  match ← release backend statement with
  | .ok _ => return ()
  | .error _ => warn warning

/-- Queries a prepared statement. -/
def queryPrepared (backend : Backend σ) (statement : Prepared)
    (arguments : List Value) :
    Action σ (Except DriverError OpenedQuery) := do
  let cursor ← nextNumber
  match ← ask backend (.queryPrepared cursor statement arguments) with
  | .error e => return .error e
  | .ok result =>
      let owned := if statement.inTransaction then none else some statement
      return .ok ⟨cursor, result, owned⟩

/-- Queries a text. A statement that was prepared for the query is given back if
it fails. -/
def query (backend : Backend σ) (sql : String) (arguments : List Value) :
    Action σ (Except DriverError OpenedQuery) := do
  if arguments.isEmpty then
    let cursor ← nextNumber
    match ← ask backend (.query cursor (← inTransaction) sql arguments) with
    | .error e => return .error e
    | .ok result => return .ok ⟨cursor, result, none⟩
  else
    match ← prepare backend sql with
    | .error e => return .error e
    | .ok statement =>
        match ← queryPrepared backend statement arguments with
        | .ok opened => return .ok opened
        | .error e =>
            releaseOrWarn backend statement "failed to close statement"
            return .error e

end Session

end NamedSql
