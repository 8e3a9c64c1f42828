import NamedSql.Backend.Basic
import NamedSql.Recorder

/-!
A session is a database together with what has happened on it: the calls with
their answers, the log, the recorder, and whether calls go to the backend
directly or through a transaction. A transaction keeps the statements that it
has prepared, one for each text.
-/

namespace NamedSql

inductive LogLine where
  | sql (text : String)
  | warning (text : String)
deriving DecidableEq, Repr

/-- Where calls go. -/
inductive Scope where
  | direct
  | transaction (prepared : List Prepared)
deriving DecidableEq, Repr

namespace Scope

def isTransaction : Scope → Bool
  | .direct => false
  | .transaction _ => true

/-- The statements that the scope has prepared and still holds. -/
def prepared : Scope → List Prepared
  | .direct => []
  | .transaction prepared => prepared

end Scope

/-- Who watches the calls: `printing` shows statements in the log. -/
structure Monitor where
  printing : Bool
  recorder : Option Recorder
deriving DecidableEq, Repr

/-- How the way to the backend outside transactions shows itself. -/
def Monitor.describe (monitor : Monitor) : String :=
  "DirectProxy \x7b debug: " ++ toString monitor.printing ++ ", .. \x7d"

structure Session (σ : Type) where
  database : σ
  events : List Backend.Event
  log : List LogLine
  monitor : Monitor
  scope : Scope
  numbered : Nat

abbrev Action (σ : Type) := StateM (Session σ)

namespace Session

variable {σ : Type}

def start (database : σ) (monitor : Monitor) : Session σ :=
  ⟨database, [], [], monitor, .direct, 0⟩

/-- Asks the backend and keeps the call with its answer. -/
def ask (backend : Backend σ) (call : Backend.Call) :
    Action σ (Except DriverError call.Reply) :=
  fun session =>
    let (answer, database) := backend.answer call session.database
    (answer,
      { session with database, events := session.events ++ [⟨call, answer⟩] })

def time (backend : Backend σ) : Action σ Nat :=
  fun session => (backend.clock session.database, session)

/-- Gives out the next number for a statement or a cursor. -/
def nextNumber : Action σ Nat :=
  fun session =>
    (session.numbered, { session with numbered := session.numbered + 1 })

def note (line : LogLine) : Action σ Unit :=
  modify fun session => { session with log := session.log ++ [line] }

def warn (text : String) : Action σ Unit :=
  note (.warning text)

/-- Shows a text if the monitor prints. -/
def print (text : String) : Action σ Unit := do
  if (← get).monitor.printing then note (.sql text)

/-- Records an execution that took from `start` until now. -/
def record (backend : Backend σ) (id : String) (start : Nat) :
    Action σ Unit := do
  let now ← time backend
  let monitor := (← get).monitor
  match monitor.recorder with
  | none => return ()
  | some recorder =>
      if recorder.drops then warn "execution record dropped"
      modify ({ · with
        monitor :=
          { monitor with recorder := some (recorder.record id (now - start)) }
            })

/-- Makes calls go elsewhere, and tells where they went before. -/
def swapScope (scope : Scope) : Action σ Scope :=
  fun session => (session.scope, { session with scope })

end Session

end NamedSql
