import NamedSql.Destination
import NamedSql.Session.Statements

/-!
Reading the rows of a query, one at a time or all at once. Closing a cursor also
closes the statement that it owns; a closed cursor touches the backend no more.
-/

namespace NamedSql

structure Cursor where
  number : Nat
  columns : List String
  pending : List (List Value)
  current : Option (List Value)
  statement : Option Prepared
  naming : Naming
  closed : Bool
deriving DecidableEq, Repr

namespace Cursor

variable {σ : Type}

def ofQuery (naming : Naming) (opened : OpenedQuery) : Cursor :=
  ⟨opened.cursor, opened.result.columns, opened.result.rows, none,
    opened.statement, naming, false⟩

def describe (cursor : Cursor) : String :=
  "QueryResult \x7b columns: " ++
    Text.bracketed (cursor.columns.map Text.quoted) ++ ", owns_statement: " ++
    toString cursor.statement.isSome ++ ", closed: " ++
    toString cursor.closed ++ ", .. \x7d"

/-- Goes to the next row and tells whether there is one. A failed fetch leaves
the cursor where it was. -/
def next (backend : Backend σ) (cursor : Cursor) :
    Action σ (Except Cause Bool × Cursor) := do
  if cursor.closed then return (.error (.result .cursorClosed), cursor)
  else
    match ← Session.ask backend (.fetch cursor.number) with
    | .error e => return (.error (.driver e), cursor)
    | .ok _ =>
        match cursor.pending with
        | [] => return (.ok false, { cursor with current := none })
        | row :: rest =>
            return (.ok true,
              { cursor with current := some row, pending := rest })

/-- Reads the current row into a destination. -/
def scan (cursor : Cursor) (destination : Destination) :
    Except Cause Unit × Destination :=
  if cursor.closed then (.error (.result .cursorClosed), destination)
  else
    match cursor.current with
    | none => (.error (.result .noCurrentRow), destination)
    | some row => destination.scan cursor.naming cursor.columns row

def closeStatement (backend : Backend σ) (cursor : Cursor) :
    Action σ (Except DriverError Unit) :=
  match cursor.statement with
  | none => return .ok ()
  | some statement => Session.ask backend (.closeStatement statement)

/-- Closes the cursor and then its statement, whether or not the first fails. Of
two failures the cursor's is reported. -/
def close (backend : Backend σ) (cursor : Cursor) :
    Action σ (Except Cause Unit × Cursor) := do
  if cursor.closed then return (.ok (), cursor)
  else
    let rows ← Session.ask backend (.closeCursor cursor.number)
    let statement ← cursor.closeStatement backend
    let outcome := do
      rows
      statement
    return (outcome.mapError Cause.driver,
      { cursor with closed := true, current := none, statement := none })

/-- Leaves a cursor behind. One that was not closed stays open in the
database. -/
def drop (cursor : Cursor) : Action σ Unit :=
  if cursor.closed then return ()
  else
    Session.warn "QueryResult dropped without calling close(); cursor may leak"

/-- Reads up to `limit` rows, each into a fresh destination, and stops at the
first failure. -/
def collect (backend : Backend σ) (fresh : Destination) :
    Nat → Cursor → Action σ (Except Cause (List Destination) × Cursor)
  | 0, cursor => return (.ok [], cursor)
  | limit + 1, cursor => do
      match ← cursor.next backend with
      | (.error cause, cursor) => return (.error cause, cursor)
      | (.ok false, cursor) => return (.ok [], cursor)
      | (.ok true, cursor) =>
          match cursor.scan fresh with
          | (.error cause, _) => return (.error cause, cursor)
          | (.ok _, item) =>
              let (rest, cursor) ← collect backend fresh limit cursor
              return ((item :: ·) <$> rest, cursor)

/-- Reads all rows that are left and closes the cursor. One step more than there
are rows reaches the end. -/
def fetchAll (backend : Backend σ) (fresh : Destination) (cursor : Cursor) :
    Action σ (Except Cause (List Destination)) := do
  let (collected, cursor) ←
    collect backend fresh (cursor.pending.length + 1) cursor
  let (closed, _) ← cursor.close backend
  return do
    let items ← collected
    closed
    return items

/-- Reads the next row, which has to be there. -/
def scanNext (backend : Backend σ) (destination : Destination)
    (cursor : Cursor) :
    Action σ ((Except Cause Unit × Destination) × Cursor) := do
  match ← cursor.next backend with
  | (.error cause, cursor) => return ((.error cause, destination), cursor)
  | (.ok false, cursor) =>
      return ((.error (.result .noRows), destination), cursor)
  | (.ok true, cursor) => return (cursor.scan destination, cursor)

/-- Reads one row and closes the cursor. -/
def scanRow (backend : Backend σ) (destination : Destination)
    (cursor : Cursor) :
    Action σ (Except Cause Unit × Destination) := do
  let ((scanned, destination), cursor) ← cursor.scanNext backend destination
  let (closed, _) ← cursor.close backend
  let outcome := do
    scanned
    closed
  return (outcome, destination)

/-- How a query for one row shows itself. -/
def describeRow (inTransaction : Bool) (cursor : Cursor) : String :=
  "QueryRowResult \x7b result: " ++ cursor.describe ++ ", in_transaction: " ++
    toString inTransaction ++ " \x7d"

end Cursor

end NamedSql
