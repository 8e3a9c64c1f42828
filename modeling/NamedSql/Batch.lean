import NamedSql.Binding
import NamedSql.Session.Statements

/-!
Executing a statement once for each row of a list. The rows are checked first,
then one statement is prepared and executed for row after row. If the connection
is lost, the rows that are left get one more pass.
-/

namespace NamedSql

namespace Param

/-- How many values a row supplies; optionals are looked through. -/
def rowWidth : Param → Nat
  | .optional (some inner) => inner.rowWidth
  | .sequence items => items.length
  | .mapping entries => entries.length
  | .record fields => fields.length
  | _ => 0

end Param

namespace Batch

variable {σ : Type}

/-- One pass over a list of rows: how many were executed and with what effect,
and what stopped the pass before its end. -/
structure Pass where
  executed : Nat
  tally : Tally
  failure : Option Cause
deriving DecidableEq, Repr

/-- The rows from `index` on have the expected shape and enough values. -/
def checkRows (defined : Nat) (expected : String) (index : Nat) :
    List Param → Except (Nat × Cause) Unit
  | [] => .ok ()
  | row :: rest =>
      let found := row.rowShape?.getD row.kindName
      if found != expected then
        .error (index, .param (.rowShape index expected found))
      else if row.rowWidth < defined then
        .error (index, .bind (.countMismatch defined row.rowWidth))
      else checkRows defined expected (index + 1) rest

/-- The first row gives the shape. Where it is no row at all nothing is
checked. -/
def check (s : Statement) (rows : List Param) : Except (Nat × Cause) Unit :=
  match rows.head?.bind Param.rowShape? with
  | none => .ok ()
  | some expected => checkRows s.columns.length expected 0 rows

/-- The generated id that an execution has to report: one for an insert, else
none. -/
def insertId (s : Statement) (outcome : Outcome) :
    Except ResultError (Option Int) :=
  if s.kind = .insert then
    match outcome.insertId with
    | some id => .ok (some id)
    | none => .error (.missingInsertId "driver reported no generated id")
  else .ok none

/-- Executes the statement for the rows that are left, `index` and `tally` being
what is done. An insert without an id still counts its rows. -/
def executeRows (backend : Backend σ) (s : Statement) (statement : Prepared)
    (index : Nat) (tally : Tally) : List Param → Action σ Pass
  | [] => return ⟨index, tally, none⟩
  | row :: rest =>
      match s.bindRow row with
      | .error cause => return ⟨index, tally, some cause⟩
      | .ok arguments => do
          Session.print (Statement.argumentLine s.id arguments)
          let start ← Session.time backend
          match ← Session.ask backend (.execPrepared statement arguments) with
          | .error e => return ⟨index, tally, some (.driver e)⟩
          | .ok outcome =>
              Session.record backend s.id start
              match insertId s outcome with
              | .error e =>
                  return ⟨index, tally.push none outcome.rows, some (.result e)⟩
              | .ok id =>
                  executeRows backend s statement (index + 1)
                    (tally.push id outcome.rows) rest

def pass (backend : Backend σ) (s : Statement) (rows : List Param) :
    Action σ Pass := do
  match check s rows with
  | .error (index, cause) => return ⟨index, .empty, some cause⟩
  | .ok _ =>
      match ← Session.prepare backend s.resolved with
      | .error e => return ⟨0, .empty, some (.driver e)⟩
      | .ok statement =>
          Session.print (Statement.callLine s.id s.resolved)
          let done ← executeRows backend s statement 0 .empty rows
          Session.releaseOrWarn backend statement
            "failed to close batch statement"
          return done

/-- Executes the statement for every row. A failed second pass is reported at
its row of the whole list, with what the first pass has applied. -/
def execute (backend : Backend σ) (s : Statement) (rows : List Param) :
    Action σ (Except Failure Tally) := do
  let first ← pass backend s rows
  match first.failure with
  | none => return .ok first.tally
  | some cause =>
      if cause == .driver .badConnection then
        Session.warn "bad connection during batch, retrying remaining rows"
        let second ← pass backend s (rows.drop first.executed)
        match second.failure with
        | none => return .ok (first.tally.append second.tally)
        | some cause =>
            return .error
              (.batch s.id (first.executed + second.executed) first.tally cause)
      else return .error (.batch s.id first.executed first.tally cause)

end Batch

end NamedSql
