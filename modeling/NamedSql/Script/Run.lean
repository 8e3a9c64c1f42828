import NamedSql.Script.Step

/-!
Running a script against a mapper. Every step ends in a report.
-/

namespace NamedSql.Script

variable {σ : Type}

/-- How many events and log lines have been reported. -/
structure Reported where
  events : Nat
  lines : Nat
deriving DecidableEq, Repr

abbrev Runner (σ : Type) := StateT Reported (StateM (Session σ))

/-- What has happened since the last report. -/
def takeTrace : Runner σ Trace :=
  fun reported session =>
    let trace : Trace := {
      events := session.events.drop reported.events
      log := session.log.drop reported.lines
      openStatements := (Backend.openStatements session.events).length
      openCursors := (Backend.openCursors session.events).length }
    ((trace, ⟨session.events.length, session.log.length⟩), session)

def driverResult (content : Content) (outcome : Except DriverError Unit) :
    Result :=
  match outcome with
  | .ok _ => .ok content
  | .error e => .error (.plain (.driver e))

def causeResult (content : Content) (outcome : Except Cause Unit) : Result :=
  match outcome with
  | .ok _ => .ok content
  | .error cause => .error (.plain cause)

/-- Takes one step on a cursor, which may be used up by it. -/
def runCursorStep (backend : Backend σ) (cursor : Cursor) :
    CursorStep → Action σ (Result × Option Cursor)
  | .next => do
      let (outcome, cursor) ← cursor.next backend
      match outcome with
      | .ok found => return (.ok (.flag found), some cursor)
      | .error cause => return (.error (.plain cause), some cursor)
  | .scan into => do
      let (outcome, destination) := cursor.scan into
      return (causeResult (.row destination) outcome, some cursor)
  | .close => do
      let (outcome, cursor) ← cursor.close backend
      return (causeResult .done outcome, some cursor)
  | .info => return (.ok (.cursor cursor), some cursor)
  | .all fresh => do
      match ← cursor.fetchAll backend fresh with
      | .ok rows => return (.ok (.rows rows), none)
      | .error cause => return (.error (.plain cause), none)

/-- Takes steps on a cursor and then leaves it behind. -/
def runCursorSteps (backend : Backend σ) (cursor : Cursor) :
    List CursorStep → Action σ (List Result)
  | [] => do
      cursor.drop
      return []
  | step :: rest => do
      match ← runCursorStep backend cursor step with
      | (result, none) => return [result]
      | (result, some cursor) =>
          return result :: (← runCursorSteps backend cursor rest)

def runRowStep (backend : Backend σ) (cursor : Cursor) :
    RowStep → Action σ Result
  | .scan into => do
      let (outcome, destination) ← cursor.scanRow backend into
      return causeResult (.row destination) outcome
  | .close => do
      let (outcome, _) ← cursor.close backend
      return causeResult (.text "closed") outcome
  | .drop => do
      let text := cursor.describeRow (← Session.inTransaction)
      cursor.drop
      return .ok (.text text)

def runBulkSteps (mapper : Mapper σ) (bulk : Bulk) :
    List BulkStep → Action σ (List Result)
  | [] => return []
  | .add rows :: rest => do
      let bulk := rows.foldl Bulk.add bulk
      return .ok (.count bulk.size) :: (← runBulkSteps mapper bulk rest)
  | .size :: rest =>
      return .ok (.bulkSize bulk) :: (← runBulkSteps mapper bulk rest)
  | .clear :: rest => do
      let bulk := bulk.clear
      return .ok (.count bulk.size) :: (← runBulkSteps mapper bulk rest)
  | .describe :: rest =>
      return .ok (.bulk bulk) :: (← runBulkSteps mapper bulk rest)
  | .execute :: rest => do
      let (outcome, bulk) ← bulk.execute mapper.backend mapper.dialect
      return outcome.map Content.tally :: (← runBulkSteps mapper bulk rest)

/-- Runs work outside transactions and without a recorder. -/
def apart {α : Type} (work : Action σ α) : Action σ α := do
  let outer ← Session.swapScope .direct
  let recorder := (← get).monitor.recorder
  modify fun session =>
    { session with monitor := { session.monitor with recorder := none } }
  let result ← work
  modify fun session =>
    { session with monitor := { session.monitor with recorder } }
  let _ ← Session.swapScope outer
  return result

/-- Opens and closes a query. -/
def runOpenQuery (mapper : Mapper σ) (sql : String) (arguments : List Value) :
    Action σ Result := do
  match ← Session.query mapper.backend sql arguments with
  | .error e => return .error (.plain (.driver e))
  | .ok opened =>
      let _ ←
        (Cursor.ofQuery mapper.settings.naming opened).close mapper.backend
      return .ok (.openedQuery opened (← get).monitor)

/-- Prepares a statement, opens and closes a query of it, and gives it back. -/
def runOpenPrepared (mapper : Mapper σ) (sql : String)
    (arguments : List Value) :
    Action σ Result := do
  match ← Session.prepare mapper.backend sql with
  | .error e => return .error (.plain (.driver e))
  | .ok statement =>
      let columns ← do
        match ← Session.queryPrepared mapper.backend statement arguments with
        | .error e => pure (.error e)
        | .ok opened =>
            let _ ← Session.ask mapper.backend (.closeCursor opened.cursor)
            pure (.ok opened.result.columns)
      let closed ← Session.release mapper.backend statement
      return .ok (.openedPrepared columns closed)

/-- Ends a transaction that holds the given statements. -/
def finish (mapper : Mapper σ) (held : List Prepared) : Ending → Action σ Result
  | .commit =>
      return driverResult .done (← Transaction.commit mapper.backend held)
  | .rollback =>
      return driverResult .done (← Transaction.rollback mapper.backend held)
  | .drop => do
      Transaction.abandon mapper.backend
      return .ok (.text "dropped")

def runTask (mapper : Mapper σ) : Task → Action σ Answer
  | .execute id parameters => do
      let outcome ← mapper.execute id parameters
      return .single (outcome.map Content.tally)
  | .query id parameters steps => do
      match ← mapper.openCursor id parameters with
      | .error failure => return .single (.error failure)
      | .ok cursor =>
          return .several (← runCursorSteps mapper.backend cursor steps)
  | .queryRow id parameters step => do
      match ← mapper.openCursor id parameters with
      | .error failure => return .single (.error failure)
      | .ok cursor => return .single (← runRowStep mapper.backend cursor step)
  | .bulk id steps =>
      match mapper.bulk id with
      | .error failure => return .single (.error failure)
      | .ok bulk => return .several (← runBulkSteps mapper bulk steps)
  | .prepared => do
      let scope := (← get).scope
      return .single
        (.ok (.transaction scope.prepared.length scope.isTransaction))
  | .find id => return .single ((mapper.find id).map Content.statement)
  | .info =>
      return .single
        (.ok (.mapper mapper.registry.size mapper.settings.maxOpen
          mapper.settings.driver))
  | .describe => return .single (.ok (.text mapper.describe))
  | .close => return .single (driverResult .done (← mapper.close))
  | .statistics => return .single (.ok (.statistics (← Mapper.statistics)))
  | .drain => do
      Mapper.drainRecorder
      return .single (.ok .done)
  | .rows id rows =>
      match mapper.find id with
      | .error failure => return .single (.error failure)
      | .ok s => do
          let outcome ←
            apart (Session.executeRows mapper.backend mapper.dialect s rows)
          return .single (outcome.map Content.tally)
  | .batch id rows =>
      match mapper.find id with
      | .error failure => return .single (.error failure)
      | .ok s => do
          let outcome ← apart (Batch.execute mapper.backend s rows)
          return .single (outcome.map Content.tally)
  | .openQuery sql arguments =>
      return .single (← runOpenQuery mapper sql arguments)
  | .openPrepared sql arguments =>
      return .single (← runOpenPrepared mapper sql arguments)

mutual

def run (mapper : Mapper σ) : Step → Runner σ Report
  | .task task => do
      let answer ← runTask mapper task
      return .step answer (← takeTrace)
  | .onMapper step => do
      let outer ← (Session.swapScope .direct : Action σ Scope)
      let report ← run mapper step
      let _ ← (Session.swapScope outer : Action σ Scope)
      return report
  | .transaction steps ending => do
      match ← Transaction.enter mapper.backend with
      | .error e =>
          return .step (.single (.error (.plain (.driver e)))) (← takeTrace)
      | .ok outer =>
          let started ← takeTrace
          let reports ← runAll mapper steps
          let held ← (Transaction.exit outer : Action σ (List Prepared))
          let ended ← finish mapper held ending
          return .transaction started reports ended (← takeTrace)
  | .inTransaction steps => do
      match ← Transaction.enter mapper.backend with
      | .error e =>
          return .inTransaction [] (.error (.plain (.driver e))) (← takeTrace)
      | .ok outer =>
          let (reports, outcome) ← runUntilFailure mapper steps
          let held ← (Transaction.exit outer : Action σ (List Prepared))
          let ended ← Transaction.settle mapper.backend held outcome
          return .inTransaction reports (ended.map fun _ => .done) (← takeTrace)

/-- Runs all steps, whether or not they fail. -/
def runAll (mapper : Mapper σ) : List Step → Runner σ (List Report)
  | [] => return []
  | step :: rest => do
      let report ← run mapper step
      return report :: (← runAll mapper rest)

/-- Runs steps up to the first that fails. -/
def runUntilFailure (mapper : Mapper σ) :
    List Step → Runner σ (List Report × Except Failure Unit)
  | [] => return ([], .ok ())
  | step :: rest => do
      let report ← run mapper step
      match report.failure? with
      | some failure => return ([report], .error failure)
      | none =>
          let (reports, outcome) ← runUntilFailure mapper rest
          return (report :: reports, outcome)

end

/-- The reports of a script that starts on a fresh session. -/
def reports (mapper : Mapper σ) (database : σ) (steps : List Step) :
    List Report :=
  (((runAll mapper steps).run ⟨0, 0⟩).run (mapper.session database)).1.1

end NamedSql.Script
