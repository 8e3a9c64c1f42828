import NamedSql.Execute

/-!
Rows that are collected for one statement and executed together. Success empties
the bulk; after a failure it still holds its rows.
-/

namespace NamedSql

structure Bulk where
  statement : Statement
  rows : List Param

namespace Bulk

variable {σ : Type}

/-- Only statements that write can be collected for. -/
def ofStatement (s : Statement) : Except Failure Bulk :=
  if s.kind.isWrite then .ok ⟨s, []⟩
  else .error (Failure.inStatement s.id (.plain (.statement .notExecutable)))

theorem ofStatement_eq_ok_iff {s : Statement} {bulk : Bulk} :
    ofStatement s = .ok bulk ↔ s.kind.isWrite = true ∧ bulk = ⟨s, []⟩ := by
  rw [ofStatement]
  split
  · next hwrite => simp [hwrite, eq_comm]
  · next hother => simp [hother]

def add (bulk : Bulk) (row : Param) : Bulk :=
  { bulk with rows := bulk.rows ++ [row] }

theorem foldl_add (bulk : Bulk) (rows : List Param) :
    rows.foldl Bulk.add bulk = { bulk with rows := bulk.rows ++ rows } := by
  induction rows generalizing bulk with
  | nil => rw [List.foldl_nil, List.append_nil]
  | cons row rest ih =>
      rw [List.foldl_cons, ih, add, List.append_assoc, List.singleton_append]

def clear (bulk : Bulk) : Bulk :=
  { bulk with rows := [] }

def size (bulk : Bulk) : Nat :=
  bulk.rows.length

def isEmpty (bulk : Bulk) : Bool :=
  bulk.rows.isEmpty

def describe (bulk : Bulk) : String :=
  "Bulk \x7b statement: " ++ Text.quoted bulk.statement.id ++ ", rows: " ++
    toString bulk.size ++ ", .. \x7d"

/-- Executes the rows in order. Without rows there is nothing to do. -/
def execute (backend : Backend σ) (dialect : Dialect) (bulk : Bulk) :
    Action σ (Except Failure Tally × Bulk) := do
  if bulk.isEmpty then return (.ok .empty, bulk)
  else
    match ← Session.executeRows backend dialect bulk.statement bulk.rows with
    | .ok tally => return (.ok tally, bulk.clear)
    | .error failure => return (.error failure, bulk)

end Bulk

end NamedSql
