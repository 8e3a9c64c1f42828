import NamedSql.Number.Power

/-!
Counts and times of executions. Times are whole nanoseconds.
-/

namespace NamedSql

structure Statistics where
  count : Nat
  total : Nat
  longest : Nat
deriving DecidableEq, Repr

namespace Statistics

def empty : Statistics := ⟨0, 0, 0⟩

def add (statistics : Statistics) (elapsed : Nat) : Statistics :=
  ⟨statistics.count + 1, statistics.total + elapsed,
    max statistics.longest elapsed⟩

/-- Counts from here on have no average. -/
def averagedBelow : Nat := twoTo 32

/-- The time per execution, rounded down. -/
def average (statistics : Statistics) : Nat :=
  if statistics.count < averagedBelow then
    statistics.total / statistics.count else 0

end Statistics

end NamedSql
