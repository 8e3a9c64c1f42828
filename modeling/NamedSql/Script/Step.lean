import NamedSql.Mapper
import NamedSql.Session.Handles

/-!
Scripts for a mapper: what each step does and what it reports. A report holds
the step's answer and what has happened on the backend and in the log since the
report before.
-/

namespace NamedSql.Script

inductive CursorStep where
  | next
  | scan (into : Destination)
  | close
  | info
  | all (fresh : Destination)

inductive RowStep where
  | scan (into : Destination)
  | close
  | drop

inductive BulkStep where
  | add (rows : List Param)
  | size
  | clear
  | describe
  | execute

inductive Ending where
  | commit
  | rollback
  | drop

/-- What a step does that holds no further steps. -/
inductive Task where
  | execute (id : String) (parameters : List Param)
  | query (id : String) (parameters : List Param) (steps : List CursorStep)
  | queryRow (id : String) (parameters : List Param) (step : RowStep)
  | bulk (id : String) (steps : List BulkStep)
  | prepared
  | find (id : String)
  | info
  | describe
  | close
  | statistics
  | drain
  | rows (id : String) (rows : List Param)
  | batch (id : String) (rows : List Param)
  | openQuery (sql : String) (arguments : List Value)
  | openPrepared (sql : String) (arguments : List Value)

/-- A step runs in the transaction around it, if there is one, unless it is sent
to the mapper. -/
inductive Step where
  | task (task : Task)
  | onMapper (step : Step)
  | transaction (steps : List Step) (ending : Ending)
  | inTransaction (steps : List Step)

inductive Content where
  | done
  | text (text : String)
  | flag (flag : Bool)
  | count (n : Nat)
  | tally (tally : Tally)
  | statement (s : Statement)
  | row (destination : Destination)
  | rows (destinations : List Destination)
  | cursor (cursor : Cursor)
  | bulkSize (bulk : Bulk)
  | bulk (bulk : Bulk)
  | transaction (held : Nat) (inTransaction : Bool)
  | mapper (statements maxOpen : Nat) (driver : String)
  | statistics (entries : List (String × Statistics))
  | openedQuery (opened : OpenedQuery) (monitor : Monitor)
  | openedPrepared (columns : Except DriverError (List String))
      (closed : Except DriverError Unit)

abbrev Result := Except Failure Content

inductive Answer where
  | single (result : Result)
  | several (results : List Result)

/-- What has happened since the report before, and how much is open now. -/
structure Trace where
  events : List Backend.Event
  log : List LogLine
  openStatements : Nat
  openCursors : Nat

inductive Report where
  | step (answer : Answer) (trace : Trace)
  | transaction (started : Trace) (steps : List Report) (ended : Result)
      (trace : Trace)
  | inTransaction (steps : List Report) (ended : Result) (trace : Trace)

/-- The failure of a result. -/
def failureOf? : Result → Option Failure
  | .ok _ => none
  | .error failure => some failure

/-- The failure of a step: that of its last part, or that of the end of its
transaction. -/
def Report.failure? : Report → Option Failure
  | .step (.single result) _ => failureOf? result
  | .step (.several results) _ => results.getLast?.bind failureOf?
  | .transaction _ _ ended _ => failureOf? ended
  | .inTransaction _ ended _ => failureOf? ended

end NamedSql.Script
