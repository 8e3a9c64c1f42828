import NamedSql.Session.Basic

/-!
Which statements and cursors are open in the database, read off the events:
those that a call has opened and no later call was asked to close. A close
counts even if it fails.
-/

namespace NamedSql.Backend

namespace Event

/-- The statement that an event has opened. -/
def openedStatement? (event : Event) : Option Nat :=
  match event.call with
  | .prepare statement =>
      if event.succeeded then some statement.number else none
  | _ => none

def closedStatement? (event : Event) : Option Nat :=
  match event.call with
  | .closeStatement statement => some statement.number
  | _ => none

/-- The cursor that an event has opened. -/
def openedCursor? (event : Event) : Option Nat :=
  match event.call with
  | .query cursor .. | .queryPrepared cursor .. =>
      if event.succeeded then some cursor else none
  | _ => none

def closedCursor? (event : Event) : Option Nat :=
  match event.call with
  | .closeCursor cursor => some cursor
  | _ => none

end Event

def openStatements (events : List Event) : List Nat :=
  let closed := events.filterMap Event.closedStatement?
  (events.filterMap Event.openedStatement?).filter fun number =>
    !closed.contains number

def openCursors (events : List Event) : List Nat :=
  let closed := events.filterMap Event.closedCursor?
  (events.filterMap Event.openedCursor?).filter fun number =>
    !closed.contains number

end NamedSql.Backend
