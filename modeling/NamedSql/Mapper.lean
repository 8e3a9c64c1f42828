import NamedSql.Bulk
import NamedSql.Settings.Basic
import NamedSql.Statement.Registry
import NamedSql.Transaction

/-!
A mapper runs registered statements, looked up by id, on a backend. It is built
from its settings and its declarations all at once, so that either every
declaration is registered or there is no mapper.
-/

namespace NamedSql

variable {σ : Type}

/-- What a mapper is built from. Without a dialect of its own it takes its
driver's. -/
structure MapperDraft (σ : Type) where
  settings : Settings
  backend : Option (Backend σ)
  dialect : Option Dialect
  declarations : List Declaration

structure Mapper (σ : Type) where
  settings : Settings
  backend : Backend σ
  dialect : Dialect
  registry : Registry

namespace MapperDraft

def describe (draft : MapperDraft σ) : String :=
  "MapperBuilder \x7b preference: " ++ draft.settings.describe ++
    ", has_backend: " ++ toString draft.backend.isSome ++ ", statements: " ++
    toString draft.declarations.length ++ " \x7d"

/-- Recording takes a runtime to run the recorder on. -/
def build (draft : MapperDraft σ) (hasRuntime : Bool) :
    Except Cause (Mapper σ) := do
  match draft.backend with
  | none => throw (.config (.setting "backend" .noBackend))
  | some backend =>
      let dialect ←
        match draft.dialect with
        | some dialect => pure dialect
        | none =>
            (Dialect.ofDriver draft.settings.driver).mapError Cause.statement
      let catalog ←
        ((Catalog.empty dialect).declareAll draft.declarations).mapError
          Cause.statement
      if draft.settings.recordExecutions && !hasRuntime then
        throw (.config (.setting "record_executions" .noRuntime))
      return ⟨draft.settings, backend, dialect, catalog.registry⟩

end MapperDraft

namespace Mapper

def describe (mapper : Mapper σ) : String :=
  "Mapper \x7b preference: " ++ mapper.settings.describe ++ ", statements: " ++
    toString mapper.registry.size ++ ", strategy: " ++
    mapper.settings.naming.strategyName ++ ", .. \x7d"

def monitor (mapper : Mapper σ) : Monitor :=
  { printing := mapper.settings.debug
    recorder :=
      if mapper.settings.recordExecutions then
        some (.ofSize mapper.settings.queueSize)
      else none }

/-- The session of a mapper on a database that nothing has been asked yet. -/
def session (mapper : Mapper σ) (database : σ) : Session σ :=
  .start database mapper.monitor

/-- The statement with an id, or the one that is written in its place. -/
def find (mapper : Mapper σ) (id : String) : Except Failure Statement :=
  (mapper.registry.find mapper.dialect id).mapError fun e =>
    .plain (.statement e)

def execute (mapper : Mapper σ) (id : String) (parameters : List Param) :
    Action σ (Except Failure Tally) := do
  match mapper.find id with
  | .error failure => return .error failure
  | .ok s => Session.execute mapper.backend mapper.dialect s parameters

def openCursor (mapper : Mapper σ) (id : String) (parameters : List Param) :
    Action σ (Except Failure Cursor) := do
  match mapper.find id with
  | .error failure => return .error failure
  | .ok s =>
      Session.openCursor mapper.backend mapper.dialect mapper.settings.naming s
        parameters

/-- Starts collecting rows for a statement. -/
def bulk (mapper : Mapper σ) (id : String) : Except Failure Bulk := do
  let s ← mapper.find id
  Bulk.ofStatement s

/-- The statistics of every id that was recorded, in order of the ids. -/
def statistics : Action σ (List (String × Statistics)) :=
  fun session =>
    ((session.monitor.recorder.map Recorder.statistics).getD [], session)

def adjustRecorder (change : Recorder → Recorder) : Action σ Unit :=
  modify fun session =>
    { session with
      monitor :=
        { session.monitor with recorder := session.monitor.recorder.map change }
          }

/-- Counts what waits in the recorder. -/
def drainRecorder : Action σ Unit :=
  adjustRecorder Recorder.drain

/-- Closes the recorder, then the backend. -/
def close (mapper : Mapper σ) : Action σ (Except DriverError Unit) := do
  adjustRecorder Recorder.shutdown
  Session.ask mapper.backend .close

end Mapper

end NamedSql
