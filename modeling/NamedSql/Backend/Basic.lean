import NamedSql.Error

/-!
The database behind a mapper. A backend is asked one call at a time and answers
with a reply or a fault. Statements and cursors are told apart by numbers that
the caller gives out. A query replies with its whole result; each row is still
fetched by a call of its own, which may fail.
-/

namespace NamedSql

/-- A statement that a backend has prepared. -/
structure Prepared where
  number : Nat
  sql : String
  inTransaction : Bool
deriving DecidableEq, Repr

structure Outcome where
  rows : Int
  insertId : Option Int
deriving DecidableEq, Repr

structure ResultSet where
  columns : List String
  rows : List (List Value)
deriving DecidableEq, Repr

namespace Backend

inductive Call where
  | exec (inTransaction : Bool) (sql : String) (arguments : List Value)
  | prepare (statement : Prepared)
  | execPrepared (statement : Prepared) (arguments : List Value)
  | query (cursor : Nat) (inTransaction : Bool) (sql : String)
      (arguments : List Value)
  | queryPrepared (cursor : Nat) (statement : Prepared) (arguments : List Value)
  | fetch (cursor : Nat)
  | closeCursor (cursor : Nat)
  | closeStatement (statement : Prepared)
  | beginTransaction
  | commit
  | rollback
  | abandon
  | close
deriving DecidableEq, Repr

/-- What a call is answered with if it does not fail. -/
abbrev Call.Reply : Call → Type
  | .exec .. => Outcome
  | .execPrepared .. => Outcome
  | .query .. => ResultSet
  | .queryPrepared .. => ResultSet
  | _ => Unit

/-- A call with its answer. -/
structure Event where
  call : Call
  answer : Except DriverError call.Reply

/-- The answer is a reply. -/
def Event.succeeded (event : Event) : Bool :=
  match event.answer with
  | .ok _ => true
  | .error _ => false

end Backend

/-- A database with states in `σ`. The clock counts nanoseconds. -/
structure Backend (σ : Type) where
  answer : (call : Backend.Call) → σ → Except DriverError call.Reply × σ
  clock : σ → Nat

end NamedSql
