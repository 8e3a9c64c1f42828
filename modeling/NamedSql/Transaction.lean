import NamedSql.Session.Statements

/-!
Transactions. The statements that a transaction has prepared are closed just
before it ends; one that fails to close stops nothing.
-/

namespace NamedSql.Transaction

variable {σ : Type}

/-- How an open transaction shows itself. -/
def describe : String :=
  "Transaction \x7b finished: false, .. \x7d"

def start (backend : Backend σ) : Action σ (Except DriverError Unit) :=
  Session.ask backend .beginTransaction

/-- Closes what a transaction has prepared. No order of the closes is promised;
the one of preparing is taken here, and nothing may rest on it. -/
def closePrepared (backend : Backend σ) : List Prepared → Action σ Unit
  | [] => return ()
  | statement :: rest => do
      match ← Session.ask backend (.closeStatement statement) with
      | .ok _ => pure ()
      | .error _ => Session.warn "failed to close transaction statement"
      closePrepared backend rest

/-- Commits a transaction that holds the given statements. -/
def commit (backend : Backend σ) (prepared : List Prepared) :
    Action σ (Except DriverError Unit) := do
  closePrepared backend prepared
  Session.ask backend .commit

def rollback (backend : Backend σ) (prepared : List Prepared) :
    Action σ (Except DriverError Unit) := do
  closePrepared backend prepared
  Session.ask backend .rollback

/-- Leaves a transaction without an end. The backend rolls it back, and what it
prepared stays open. -/
def abandon (backend : Backend σ) : Action σ Unit := do
  Session.warn
    "Transaction dropped without commit() or rollback(); rolling back"
  let _ ← Session.ask backend .abandon
  return ()

/-- Commits if the work in the transaction succeeded and rolls back otherwise.
The failure of the work goes before that of the rollback. -/
def settle {α : Type} (backend : Backend σ) (prepared : List Prepared)
    (outcome : Except Failure α) : Action σ (Except Failure α) := do
  match outcome with
  | .ok value =>
      match ← commit backend prepared with
      | .ok _ => return .ok value
      | .error e => return .error (.plain (.driver e))
  | .error failure =>
      match ← rollback backend prepared with
      | .ok _ => return .error failure
      | .error _ =>
          Session.warn "rollback after failed transaction failed"
          return .error failure

/-- Begins a transaction, to which calls go from here on. Tells where they went
before. -/
def enter (backend : Backend σ) : Action σ (Except DriverError Scope) := do
  match ← start backend with
  | .error e => return .error e
  | .ok _ => return .ok (← Session.swapScope (.transaction []))

/-- Lets calls go where they went before and tells what the transaction
holds. -/
def exit (outer : Scope) : Action σ (List Prepared) := do
  return (← Session.swapScope outer).prepared

/-- Runs work in a transaction of its own. -/
def around {α : Type} (backend : Backend σ)
    (work : Action σ (Except Failure α)) :
    Action σ (Except Failure α) := do
  match ← enter backend with
  | .error e => return .error (.plain (.driver e))
  | .ok outer =>
      let outcome ← work
      settle backend (← exit outer) outcome

end NamedSql.Transaction
