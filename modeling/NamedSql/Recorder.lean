import NamedSql.Keyed
import NamedSql.Statistics
import NamedSql.Text.Case

/-!
The execution recorder. Records wait in a bounded queue until they are drained
into the statistics of their id; ids compare without regard to case. A record
that finds the queue full is dropped, and a closed recorder takes none.
-/

namespace NamedSql

structure Execution where
  id : String
  elapsed : Nat
deriving DecidableEq, Repr

structure Recorder where
  capacity : Nat
  queue : List Execution
  statistics : List (String × Statistics)
  closed : Bool
deriving DecidableEq, Repr

namespace Recorder

/-- A recorder whose queue holds `size` records, at least one. -/
def ofSize (size : Nat) : Recorder :=
  ⟨max 1 size, [], [], false⟩

def hasRoom (recorder : Recorder) : Bool :=
  recorder.queue.length < recorder.capacity

/-- Whether a record that arrives now is dropped for want of room. -/
def drops (recorder : Recorder) : Bool :=
  !recorder.closed && !recorder.hasRoom

def record (recorder : Recorder) (id : String) (elapsed : Nat) : Recorder :=
  if !recorder.closed && recorder.hasRoom then
    { recorder with queue := recorder.queue ++ [⟨Text.toUpper id, elapsed⟩] }
  else recorder

theorem length_queue_record {recorder : Recorder} (id : String) (elapsed : Nat)
    (h : recorder.queue.length ≤ recorder.capacity) :
    (recorder.record id elapsed).queue.length ≤ recorder.capacity := by
  rw [record]
  split
  · next haccepted =>
      have hroom : recorder.queue.length < recorder.capacity :=
        of_decide_eq_true (Bool.and_eq_true_iff.1 haccepted).2
      rw [List.length_append]
      exact hroom
  · exact h

def count (statistics : List (String × Statistics)) (execution : Execution) :
    List (String × Statistics) :=
  Keyed.update execution.id
    (fun known => (known.getD .empty).add execution.elapsed) statistics

/-- Counts the record that has waited longest. -/
def consume (recorder : Recorder) : Recorder :=
  match recorder.queue with
  | [] => recorder
  | execution :: rest =>
      { recorder with
        queue := rest, statistics := count recorder.statistics execution }

/-- Counts every waiting record, one after the other. -/
def drain (recorder : Recorder) : Recorder :=
  { recorder with
    queue := [], statistics := recorder.queue.foldl count recorder.statistics }

@[simp]
theorem drain_consume (recorder : Recorder) :
    recorder.consume.drain = recorder.drain := by
  obtain ⟨_, queue, _, _⟩ := recorder
  cases queue <;> rfl

/-- Closes the recorder; what is waiting is still counted. -/
def shutdown (recorder : Recorder) : Recorder :=
  { recorder.drain with closed := true }

def get? (recorder : Recorder) (id : String) : Option Statistics :=
  recorder.statistics.lookup (Text.toUpper id)

end Recorder

end NamedSql
