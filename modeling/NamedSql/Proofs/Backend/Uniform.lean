import NamedSql.Proofs.Backend.Executions

/-!
Backends that answer by what is submitted to them. What an execution reports
depends on how many were asked for before, on its text and on its arguments;
what a query finds, and how each fetch of its rows goes, on its text and its
arguments. Nothing that has been prepared, opened or closed besides shows in an
answer, and neither preparing nor closing ever fails.
-/

namespace NamedSql.Backend

variable {σ : Type}

/-- What a call submits, whichever statement or cursor it goes through: an
execution or a query, of a text or of a prepared statement, and what is done
with the rows of a query. -/
inductive Submission where
  | exec (prepared : Bool) (sql : String) (arguments : List Value)
  | query (prepared : Bool) (sql : String) (arguments : List Value)
  | fetch
  | closeCursor
deriving DecidableEq, Repr

def Submission.executes : Submission → Bool
  | .exec .. => true
  | _ => false

def Call.submission? : Call → Option Submission
  | .exec _ sql arguments => some (.exec false sql arguments)
  | .execPrepared statement arguments =>
      some (.exec true statement.sql arguments)
  | .query _ _ sql arguments => some (.query false sql arguments)
  | .queryPrepared _ statement arguments =>
      some (.query true statement.sql arguments)
  | .fetch _ => some .fetch
  | .closeCursor _ => some .closeCursor
  | _ => none

/-- What the events have submitted, in order. -/
def submissions (events : List Event) : List Submission :=
  events.filterMap fun event => event.call.submission?

/-- How many executions the events have asked for. -/
def executed (events : List Event) : Nat :=
  (submissions events).countP Submission.executes

/-- What a cursor reads, and how many of its rows were asked for. -/
structure Reading where
  sql : String
  arguments : List Value
  fetched : Nat
deriving DecidableEq, Repr

def Event.follow (cursor : Nat) (reading : Option Reading) :
    Event → Option Reading
  | ⟨.query opened _ sql arguments, .ok _⟩ =>
      if opened = cursor then some ⟨sql, arguments, 0⟩ else reading
  | ⟨.queryPrepared opened statement arguments, .ok _⟩ =>
      if opened = cursor then some ⟨statement.sql, arguments, 0⟩ else reading
  | ⟨.fetch fetched, _⟩ =>
      if fetched = cursor then
        reading.map fun reading =>
          { reading with fetched := reading.fetched + 1 }
      else reading
  | ⟨.closeCursor closed, _⟩ => if closed = cursor then none else reading
  | _ => reading

/-- What a cursor reads after the events, if it is open. -/
def reading? (events : List Event) (cursor : Nat) : Option Reading :=
  events.foldl (Event.follow cursor) none

theorem submissions_concat (events : List Event) (event : Event) :
    submissions (events ++ [event]) =
      submissions events ++ event.call.submission?.toList := by
  rw [submissions, List.filterMap_append, List.filterMap_cons]
  cases event.call.submission? <;> rfl

theorem reading?_concat (events : List Event) (event : Event) (cursor : Nat) :
    reading? (events ++ [event]) cursor =
      event.follow cursor (reading? events cursor) := by
  rw [reading?, List.foldl_append]
  rfl

/-- The answers that depend on what is submitted. The third argument of `fetch`
is the number of rows fetched before. -/
structure Behaviour where
  exec : Nat → String → List Value → Except DriverError Outcome
  query : String → List Value → Except DriverError ResultSet
  fetch : String → List Value → Nat → Except DriverError Unit

/-- The event is answered by the behaviour, going by the events before it. -/
def Event.AnsweredBy (behaviour : Behaviour) (history : List Event) :
    Event → Prop
  | ⟨.exec _ sql arguments, answer⟩ =>
      answer = behaviour.exec (executed history) sql arguments
  | ⟨.execPrepared statement arguments, answer⟩ =>
      answer = behaviour.exec (executed history) statement.sql arguments
  | ⟨.query _ _ sql arguments, answer⟩ => answer = behaviour.query sql arguments
  | ⟨.queryPrepared _ statement arguments, answer⟩ =>
      answer = behaviour.query statement.sql arguments
  | ⟨.fetch cursor, answer⟩ =>
      ∀ reading, reading? history cursor = some reading →
        answer = behaviour.fetch reading.sql reading.arguments reading.fetched
  | ⟨.prepare _, answer⟩ => answer = .ok ()
  | ⟨.closeCursor _, answer⟩ => answer = .ok ()
  | ⟨.closeStatement _, answer⟩ => answer = .ok ()
  | _ => True

/-- From the state on, the backend answers by the behaviour, whatever it is
asked. -/
def Uniform (backend : Backend σ) (behaviour : Behaviour) (state : σ) : Prop :=
  ∀ history event last, backend.Answers state (history ++ [event]) last →
    event.AnsweredBy behaviour history

/-- A call is answered by the behaviour, and by success where the behaviour
leaves the answer open. Only an open cursor has rows to fetch. -/
def Behaviour.answer (behaviour : Behaviour) (history : List Event) :
    (call : Call) → Except DriverError call.Reply
  | .exec _ sql arguments => behaviour.exec (executed history) sql arguments
  | .execPrepared statement arguments =>
      behaviour.exec (executed history) statement.sql arguments
  | .query _ _ sql arguments => behaviour.query sql arguments
  | .queryPrepared _ statement arguments =>
      behaviour.query statement.sql arguments
  | .fetch cursor =>
      match reading? history cursor with
      | some reading =>
          behaviour.fetch reading.sql reading.arguments reading.fetched
      | none => .error (.failed "no such cursor")
  | .prepare _ | .closeCursor _ | .closeStatement _ | .beginTransaction
  | .commit | .rollback
  | .abandon | .close => .ok ()

/-- The backend that remembers its events and answers by the behaviour. -/
def Behaviour.backend (behaviour : Behaviour) : Backend (List Event) where
  answer call history :=
    (behaviour.answer history call,
      history ++ [⟨call, behaviour.answer history call⟩])
  clock := List.length

theorem Behaviour.backend_remembers {behaviour : Behaviour}
    {first events last : List Event}
    (h : behaviour.backend.Answers first events last) :
    last = first ++ events := by
  induction h with
  | nil history => exact (List.append_nil history).symm
  | @cons history next last call answer rest asked _ ih =>
      obtain ⟨rfl, rfl⟩ := Prod.mk.inj asked
      rw [ih, List.append_assoc]
      rfl

theorem Behaviour.backend_uniform (behaviour : Behaviour) :
    behaviour.backend.Uniform behaviour [] := by
  intro history event last h
  obtain ⟨middle, hleft, hright⟩ := h.split
  obtain rfl : middle = history := backend_remembers hleft
  cases hright with
  | @cons _ next _ call answer _ asked _ =>
      obtain ⟨rfl, -⟩ := Prod.mk.inj asked
      cases call with
      | fetch cursor =>
          intro reading hreading
          rw [Behaviour.answer, hreading]
      | beginTransaction | commit | rollback | abandon | close => trivial
      | _ => rfl

end NamedSql.Backend
