import NamedSql.Backend.Basic
import NamedSql.Text.Blank
import NamedSql.Text.Case
import NamedSql.Text.Split

/-!
A backend that answers from a script. Every call passes a point; the script says
at which pass a point fails, what executions report, and which rows a query
serves.
-/

namespace NamedSql.Backend

inductive Point where
  | exec
  | query
  | prepare
  | fetch
  | closeCursor
  | closeStatement
  | beginTransaction
  | commit
  | rollback
  | close
deriving DecidableEq, Repr

/-- The result of every query whose SQL holds the mark. -/
structure CannedResult where
  mark : String
  result : ResultSet
deriving DecidableEq, Repr

structure Fault where
  point : Point
  pass : Nat
  error : DriverError
deriving DecidableEq, Repr

/-- Executions are numbered by their passes, the first being 1. -/
structure Script where
  canned : List CannedResult
  faults : List Fault
  outcomes : List (Nat × Outcome)
  withholdsIds : Bool
  firstId : Int
deriving DecidableEq, Repr

/-- The points passed so far, the last one first, and the next generated id. -/
structure Scripted where
  passed : List Point
  nextId : Int
deriving DecidableEq, Repr

namespace Script

def start (script : Script) : Scripted :=
  ⟨[], script.firstId⟩

/-- The point that a call passes; abandoning a transaction passes none. -/
def point? : Call → Option Point
  | .exec .. | .execPrepared .. => some .exec
  | .query .. | .queryPrepared .. => some .query
  | .prepare _ => some .prepare
  | .fetch _ => some .fetch
  | .closeCursor _ => some .closeCursor
  | .closeStatement _ => some .closeStatement
  | .beginTransaction => some .beginTransaction
  | .commit => some .commit
  | .rollback => some .rollback
  | .abandon => none
  | .close => some .close

def faultAt? (script : Script) (point : Point) (pass : Nat) :
    Option DriverError :=
  (script.faults.find? fun fault => fault.point = point ∧ fault.pass = pass).map
    Fault.error

/-- The SQL opens with `INSERT`, in any case. -/
def isInsert (sql : String) : Bool :=
  "INSERT".toList.isPrefixOf ((Text.trimStart sql.toList).map Char.toUpper)

/-- What an execution reports at its pass: what the script says, or one row,
with a generated id for an insert. -/
def execute (script : Script) (sql : String) (pass : Nat) (state : Scripted) :
    Outcome × Scripted :=
  match script.outcomes.lookup pass with
  | some outcome => (outcome, state)
  | none =>
      if isInsert sql && !script.withholdsIds then
        (⟨1, some state.nextId⟩, { state with nextId := state.nextId + 1 })
      else (⟨1, none⟩, state)

def result (script : Script) (sql : String) : ResultSet :=
  match script.canned.find? fun canned =>
    Text.occursIn canned.mark.toList sql.toList with
  | some canned => canned.result
  | none => ⟨[], []⟩

def reply (script : Script) (call : Call) (state : Scripted) :
    call.Reply × Scripted :=
  match call with
  | .exec _ sql _ => script.execute sql (state.passed.count .exec) state
  | .execPrepared statement _ =>
      script.execute statement.sql (state.passed.count .exec) state
  | .query _ _ sql _ => (script.result sql, state)
  | .queryPrepared _ statement _ => (script.result statement.sql, state)
  | .prepare _ | .fetch _ | .closeCursor _ | .closeStatement _
  | .beginTransaction | .commit
  | .rollback | .abandon | .close => ((), state)

def answer (script : Script) (call : Call) (state : Scripted) :
    Except DriverError call.Reply × Scripted :=
  match point? call with
  | none =>
      let (reply, state) := script.reply call state
      (.ok reply, state)
  | some point =>
      let state := { state with passed := point :: state.passed }
      match script.faultAt? point (state.passed.count point) with
      | some e => (.error e, state)
      | none =>
          let (reply, state) := script.reply call state
          (.ok reply, state)

/-- The scripted backend; it takes no time. -/
def backend (script : Script) : Backend Scripted :=
  ⟨script.answer, fun _ => 0⟩

end Script

end NamedSql.Backend
