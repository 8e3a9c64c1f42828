import NamedSql.Proofs.Keyed
import NamedSql.Recorder

/-!
What a recorder has counted once it is closed. Records arrive and the consumer
takes them, in any order; as long as no record finds the queue full, what is
counted and what still waits together grow by one with each record, and closing
counts what waits.
-/

namespace NamedSql

namespace Recorder

/-- The count that is kept for an id. -/
def countOf (id : String) (statistics : List (String × Statistics)) : Nat :=
  ((statistics.lookup (Text.toUpper id)).map Statistics.count).getD 0

theorem countOf_count {statistics : List (String × Statistics)}
    (h : Keyed.Ascending statistics) (id : String) (execution : Execution) :
    countOf id (count statistics execution) =
      countOf id statistics + if execution.id = Text.toUpper id then 1
      else 0 := by
  rw [countOf, count]
  split
  · next hsame =>
      rw [hsame, h.lookup_update_self, countOf]
      cases statistics.lookup (Text.toUpper id) with
      | none => rfl
      | some known => rfl
  · next hother =>
      rw [Keyed.lookup_update_of_ne _ _ (Ne.symm hother), countOf, Nat.add_zero]

theorem ascending_count {statistics : List (String × Statistics)}
    (h : Keyed.Ascending statistics) (execution : Execution) :
    Keyed.Ascending (count statistics execution) :=
  h.update _ _

/-- What is known of an id: the count that is kept for it, and its records that
still wait. -/
def known (id : String) (recorder : Recorder) : Nat :=
  countOf id recorder.statistics +
    recorder.queue.countP fun execution => execution.id = Text.toUpper id

theorem countOf_foldl_count {statistics : List (String × Statistics)}
    (h : Keyed.Ascending statistics) (id : String) (queue : List Execution) :
    countOf id (queue.foldl count statistics) =
      countOf id statistics + queue.countP fun execution =>
        execution.id = Text.toUpper id := by
  induction queue generalizing statistics with
  | nil => rfl
  | cons execution rest ih =>
      rw [List.foldl_cons, ih (ascending_count h execution), countOf_count h,
        List.countP_cons]
      simp only [decide_eq_true_eq]
      omega

/-- What happens to an open recorder: an execution is recorded under its id, or
the consumer counts the record that has waited longest. -/
inductive Turn where
  | record (execution : Execution)
  | consume
deriving DecidableEq, Repr

def Turn.execution? : Turn → Option Execution
  | .record execution => some execution
  | .consume => none

def turn (recorder : Recorder) : Turn → Recorder
  | .record execution => recorder.record execution.id execution.elapsed
  | .consume => recorder.consume

/-- The recorder after turns. -/
def after (recorder : Recorder) (turns : List Turn) : Recorder :=
  turns.foldl turn recorder

theorem after_append (recorder : Recorder) (left right : List Turn) :
    recorder.after (left ++ right) = (recorder.after left).after right :=
  List.foldl_append ..

/-- No record finds the queue full. -/
def Lossless (recorder : Recorder) : List Turn → Prop
  | [] => True
  | .record execution :: rest =>
      recorder.drops = false ∧ (recorder.turn (.record execution)).Lossless rest
  | .consume :: rest => (recorder.turn .consume).Lossless rest

instance decidableLossless (recorder : Recorder) :
    (turns : List Turn) → Decidable (recorder.Lossless turns)
  | [] => inferInstanceAs (Decidable True)
  | .record execution :: rest =>
      have := decidableLossless (recorder.turn (.record execution)) rest
      inferInstanceAs (Decidable (_ ∧ _))
  | .consume :: rest => decidableLossless (recorder.turn .consume) rest

theorem lossless_append {recorder : Recorder} {left right : List Turn} :
    recorder.Lossless (left ++ right) ↔
      recorder.Lossless left ∧ (recorder.after left).Lossless right := by
  induction left generalizing recorder with
  | nil => simp [Lossless, after]
  | cons turn rest ih =>
      cases turn with
      | record execution =>
          simp only [List.cons_append, Lossless, ih, and_assoc]; rfl
      | consume => simp only [List.cons_append, Lossless, ih]; rfl

/-- The recorder takes records, and keeps its statistics in order. -/
structure Active (recorder : Recorder) : Prop where
  isOpen : recorder.closed = false
  ascending : Keyed.Ascending recorder.statistics

theorem active_ofSize (size : Nat) : (ofSize size).Active :=
  ⟨rfl, .nil⟩

theorem known_ofSize (id : String) (size : Nat) : (ofSize size).known id = 0 :=
  rfl

theorem record_of_not_drops {recorder : Recorder} (h : recorder.Active)
    (hroom : recorder.drops = false) (id : String) (elapsed : Nat) :
    recorder.record id elapsed =
      { recorder with
        queue := recorder.queue ++ [⟨Text.toUpper id, elapsed⟩] } := by
  have hhas : recorder.hasRoom = true := by simpa [drops, h.isOpen] using hroom
  rw [record, h.isOpen, hhas]
  rfl

theorem Active.turn {recorder : Recorder} (h : recorder.Active) (turn : Turn) :
    (recorder.turn turn).Active := by
  cases turn with
  | record execution =>
      rw [Recorder.turn, record]
      split
      · exact ⟨h.isOpen, h.ascending⟩
      · exact h
  | consume =>
      rw [Recorder.turn, consume]
      split
      · exact h
      · exact ⟨h.isOpen, ascending_count h.ascending _⟩

theorem known_record {recorder : Recorder} (h : recorder.Active)
    (hroom : recorder.drops = false) (id : String) (execution : Execution) :
    (recorder.turn (.record execution)).known id =
      recorder.known id + if Text.toUpper execution.id = Text.toUpper id then 1
      else 0 := by
  rw [turn, record_of_not_drops h hroom, known, known, List.countP_append,
    List.countP_singleton]
  simp only [decide_eq_true_eq]
  omega

theorem known_consume {recorder : Recorder} (h : recorder.Active)
    (id : String) : (recorder.turn .consume).known id = recorder.known id := by
  obtain ⟨capacity, queue, statistics, closed⟩ := recorder
  cases queue with
  | nil => rfl
  | cons execution rest =>
      simp only [turn, consume, known, countOf_count h.ascending,
        List.countP_cons, decide_eq_true_eq]
      omega

/-- Whatever turns the records and the consumer take, what is known of an id
grows by its records. -/
theorem known_after {recorder : Recorder} (h : recorder.Active)
    {turns : List Turn} (hlossless : recorder.Lossless turns) (id : String) :
    (recorder.after turns).known id = recorder.known id +
      (turns.filterMap Turn.execution?).countP fun execution =>
        Text.toUpper execution.id = Text.toUpper id := by
  induction turns generalizing recorder with
  | nil => rfl
  | cons turn rest ih =>
      cases turn with
      | record execution =>
          obtain ⟨hroom, hrest⟩ := hlossless
          change ((recorder.turn (.record execution)).after rest).known id = _
          rw [ih (h.turn _) hrest, known_record h hroom, List.filterMap_cons]
          simp only [Turn.execution?, List.countP_cons, decide_eq_true_eq]
          omega
      | consume =>
          change ((recorder.turn .consume).after rest).known id = _
          rw [ih (h.turn _) hlossless, known_consume h]
          rfl

/-- A queue of one is enough where the consumer keeps up, but not for two
records in a row. -/
example : (ofSize 1).Lossless [.record ⟨"q", 5⟩, .consume, .record ⟨"Q", 3⟩] ∧
    ¬ (ofSize 1).Lossless [.record ⟨"q", 5⟩, .record ⟨"Q", 3⟩, .consume] := by
      decide

theorem Active.after {recorder : Recorder} (h : recorder.Active)
    (turns : List Turn) : (recorder.after turns).Active := by
  induction turns generalizing recorder with
  | nil => exact h
  | cons turn rest ih => exact ih (h.turn turn)

/-- A closed recorder has counted all that it knew. -/
theorem countOf_shutdown {recorder : Recorder} (h : recorder.Active)
    (id : String) :
    countOf id recorder.shutdown.statistics = recorder.known id :=
  countOf_foldl_count h.ascending id recorder.queue

end Recorder

end NamedSql
