import Mathlib.Data.List.Induction
import NamedSql.Proofs.Recorder.Counting
import NamedSql.Proofs.Recorder.Timing

/-!
What becomes of the records that a recorder accepts. They leave the queue in the
order in which they came, so at every moment the accepted records are those that
were counted and, behind them, those that wait. A recorder that was shut down
has counted all of them and does not change any more.
-/

namespace NamedSql.Recorder

/-- What happens to a recorder: a turn, or it is shut down. -/
inductive Move where
  | turn (turn : Turn)
  | shutdown
deriving DecidableEq, Repr

def move (recorder : Recorder) : Move → Recorder
  | .turn turn => recorder.turn turn
  | .shutdown => recorder.shutdown

/-- The recorder after moves. -/
def moved (recorder : Recorder) (moves : List Move) : Recorder :=
  moves.foldl move recorder

theorem moved_append (recorder : Recorder) (left right : List Move) :
    recorder.moved (left ++ right) = (recorder.moved left).moved right :=
  List.foldl_append ..

/-- What a move leaves in the queue behind the records that were waiting. -/
def entering (recorder : Recorder) : Move → List Execution
  | .turn (.record execution) =>
      (recorder.record execution.id execution.elapsed).queue.drop
        recorder.queue.length
  | _ => []

/-- The records that enter the queue as moves are made, in order. -/
def accepted (recorder : Recorder) : List Move → List Execution
  | [] => []
  | m :: rest => recorder.entering m ++ (recorder.move m).accepted rest

/-- Whether the recorder takes a record now. -/
def Takes (recorder : Recorder) : Prop :=
  recorder.closed = false ∧ recorder.queue.length < recorder.capacity

instance (recorder : Recorder) : Decidable recorder.Takes :=
  inferInstanceAs (Decidable (_ ∧ _))

variable {recorder : Recorder}

theorem record_of_takes (h : recorder.Takes) (execution : Execution) :
    recorder.record execution.id execution.elapsed =
      { recorder with
        queue := recorder.queue ++
          [⟨Text.toUpper execution.id, execution.elapsed⟩] } := by
  have hroom : recorder.hasRoom = true := decide_eq_true h.2
  rw [record, h.1, hroom]
  rfl

theorem record_of_not_takes (h : ¬recorder.Takes) (execution : Execution) :
    recorder.record execution.id execution.elapsed = recorder := by
  rw [record, if_neg]
  intro haccepted
  obtain ⟨hopen, hroom⟩ := Bool.and_eq_true_iff.mp haccepted
  exact h ⟨by simpa using hopen, of_decide_eq_true hroom⟩

/-- A record enters the queue under its folded id exactly if the recorder takes
it. -/
theorem entering_record (recorder : Recorder) (execution : Execution) :
    recorder.entering (.turn (.record execution)) =
      if recorder.Takes then [⟨Text.toUpper execution.id, execution.elapsed⟩]
      else [] := by
  rw [entering]
  split
  · next htakes => rw [record_of_takes htakes, List.drop_left]
  · next hrefuses => rw [record_of_not_takes hrefuses, List.drop_length]

theorem move_record (recorder : Recorder) (execution : Execution) :
    recorder.move (.turn (.record execution)) =
      { recorder with
        queue := recorder.queue ++
          recorder.entering (.turn (.record execution)) } := by
  rw [entering_record]
  change recorder.record execution.id execution.elapsed = _
  split
  · next htakes => exact record_of_takes htakes execution
  · next hrefuses => rw [record_of_not_takes hrefuses, List.append_nil]

/-- How a recorder stands once it has accepted records: some of them were
counted, and those behind them wait in the queue, as far as there is room; none
waits in a closed recorder. -/
structure Conserves (capacity : Nat) (accepted : List Execution)
    (recorder : Recorder) : Prop where
  capacity_eq : recorder.capacity = capacity
  within : recorder.queue.length ≤ capacity
  counted : ∃ counted, accepted = counted ++ recorder.queue ∧
    recorder.statistics = counted.foldl count []
  settled : recorder.closed = true → recorder.queue = []

theorem conserves_ofSize (size : Nat) :
    Conserves (max 1 size) [] (ofSize size) :=
  ⟨rfl, Nat.zero_le _, ⟨[], rfl, rfl⟩, fun _ => rfl⟩

variable {capacity : Nat} {accepted : List Execution}

theorem Conserves.record (h : Conserves capacity accepted recorder)
    (execution : Execution) :
    Conserves capacity
      (accepted ++ recorder.entering (.turn (.record execution)))
      (recorder.move (.turn (.record execution))) := by
  obtain ⟨counted, haccepted, hstatistics⟩ := h.counted
  have hwithin := length_queue_record execution.id execution.elapsed
    (h.capacity_eq.symm ▸ h.within)
  rw [move_record, entering_record]
  split
  · next htakes =>
      rw [record_of_takes htakes, h.capacity_eq] at hwithin
      refine ⟨h.capacity_eq, hwithin, ⟨counted, ?_, hstatistics⟩, ?_⟩
      · rw [haccepted, List.append_assoc]
      · intro hclosed
        rw [htakes.1] at hclosed
        cases hclosed
  · rw [List.append_nil, List.append_nil]
    exact h

theorem Conserves.consume (h : Conserves capacity accepted recorder) :
    Conserves capacity accepted recorder.consume := by
  obtain ⟨counted, haccepted, hstatistics⟩ := h.counted
  rw [Recorder.consume]
  split
  · exact h
  · next execution rest hqueue =>
      have hwithin := h.within
      rw [hqueue, List.length_cons] at hwithin
      refine ⟨h.capacity_eq, Nat.le_of_succ_le hwithin,
        ⟨counted ++ [execution], ?_, ?_⟩, ?_⟩
      · rw [haccepted, hqueue, List.append_assoc]
        rfl
      · rw [List.foldl_append, ← hstatistics]
        rfl
      · intro hclosed
        have hempty := h.settled hclosed
        rw [hqueue] at hempty
        cases hempty

theorem Conserves.shutdown (h : Conserves capacity accepted recorder) :
    Conserves capacity accepted recorder.shutdown := by
  obtain ⟨counted, haccepted, hstatistics⟩ := h.counted
  refine ⟨h.capacity_eq, Nat.zero_le _,
    ⟨accepted, (List.append_nil _).symm, ?_⟩, fun _ => rfl⟩
  change recorder.queue.foldl count recorder.statistics = _
  rw [haccepted, List.foldl_append, hstatistics]

theorem Conserves.move (h : Conserves capacity accepted recorder) (m : Move) :
    Conserves capacity (accepted ++ recorder.entering m) (recorder.move m) := by
  cases m with
  | turn turn =>
      cases turn with
      | record execution => exact h.record execution
      | consume =>
          have hnone : recorder.entering (.turn .consume) = [] := rfl
          rw [hnone, List.append_nil]
          exact h.consume
  | shutdown =>
      have hnone : recorder.entering .shutdown = [] := rfl
      rw [hnone, List.append_nil]
      exact h.shutdown

theorem Conserves.moved (h : Conserves capacity accepted recorder)
    (moves : List Move) :
    Conserves capacity (accepted ++ recorder.accepted moves)
      (recorder.moved moves) := by
  induction moves generalizing recorder accepted with
  | nil =>
      rw [Recorder.accepted, List.append_nil]
      exact h
  | cons m rest ih =>
      rw [Recorder.accepted, ← List.append_assoc]
      exact ih (h.move m)

/-- What was counted of an id and what waits of it is what was accepted of
it. -/
theorem Conserves.countOf_add_waiting (h : Conserves capacity accepted recorder)
    (id : String) :
    countOf id recorder.statistics +
        recorder.queue.countP
          (fun execution => execution.id = Text.toUpper id) =
      accepted.countP fun execution => execution.id = Text.toUpper id := by
  obtain ⟨counted, haccepted, hstatistics⟩ := h.counted
  have hempty : Keyed.Ascending ([] : List (String × Statistics)) := .nil
  have hcounted := countOf_foldl_count hempty id counted
  rw [haccepted, List.countP_append, hstatistics, hcounted]
  simp [countOf]

/-- The times of the records of an id. -/
def timesOf (id : String) (executions : List Execution) : List Nat :=
  (executions.filter fun execution => execution.id = Text.toUpper id).map
    Execution.elapsed

/-- The statistics of the records of an id, if it has any. -/
def statisticsOf (id : String) (executions : List Execution) :
    Option Statistics :=
  match timesOf id executions with
  | [] => none
  | times => some (Statistics.ofTimes times)

theorem statisticsOf_getD (id : String) (executions : List Execution) :
    (statisticsOf id executions).getD .empty =
      Statistics.ofTimes (timesOf id executions) := by
  rw [statisticsOf]
  split
  · next hnone => rw [hnone]; rfl
  · rfl

theorem statisticsOf_concat (id : String) (executions : List Execution)
    (execution : Execution) :
    statisticsOf id (executions ++ [execution]) =
      if execution.id = Text.toUpper id then
        some (((statisticsOf id executions).getD .empty).add execution.elapsed)
      else statisticsOf id executions := by
  have htimes :
      timesOf id (executions ++ [execution]) = timesOf id executions ++
        if execution.id = Text.toUpper id then [execution.elapsed] else [] := by
    rw [timesOf, List.filter_append, List.map_append, List.filter_singleton]
    split <;> simp_all [timesOf]
  rw [statisticsOf_getD]
  split
  · next hsame =>
      rw [if_pos hsame] at htimes
      rw [statisticsOf, htimes]
      have hadd :
          (Statistics.ofTimes (timesOf id executions)).add execution.elapsed =
            Statistics.ofTimes
              (timesOf id executions ++ [execution.elapsed]) := by
        rw [Statistics.ofTimes, Statistics.ofTimes, List.foldl_append]
        rfl
      rw [hadd]
      cases timesOf id executions <;> rfl
  · next hother =>
      rw [if_neg hother, List.append_nil] at htimes
      rw [statisticsOf, htimes, ← statisticsOf]

theorem ascending_foldl_count (executions : List Execution) :
    Keyed.Ascending (executions.foldl count []) := by
  induction executions using List.reverseRecOn with
  | nil => exact .nil
  | append_singleton earlier execution ih =>
      rw [List.foldl_append]
      exact ascending_count ih execution

/-- Counting records gives each id the statistics of its times. -/
theorem lookup_foldl_count (id : String) (executions : List Execution) :
    (executions.foldl count []).lookup (Text.toUpper id) =
      statisticsOf id executions := by
  induction executions using List.reverseRecOn with
  | nil => rfl
  | append_singleton earlier execution ih =>
      rw [List.foldl_append, List.foldl_cons, List.foldl_nil, count,
        statisticsOf_concat]
      split
      · next hsame =>
          rw [hsame, (ascending_foldl_count earlier).lookup_update_self, ih]
      · next hother => rw [Keyed.lookup_update_of_ne _ _ (Ne.symm hother), ih]

theorem Conserves.get?_eq (h : Conserves capacity accepted recorder)
    (hempty : recorder.queue = []) (id : String) :
    recorder.get? id = statisticsOf id accepted := by
  obtain ⟨counted, haccepted, hstatistics⟩ := h.counted
  rw [hempty, List.append_nil] at haccepted
  rw [get?, hstatistics, haccepted, lookup_foldl_count]

theorem closed_move (recorder : Recorder) (m : Move) :
    (recorder.move m).closed = true ↔
      recorder.closed = true ∨ m = .shutdown := by
  cases m with
  | turn turn =>
      cases turn with
      | record execution => rw [move_record]; simp
      | consume =>
          obtain ⟨_, queue, _, _⟩ := recorder
          cases queue <;> simp [move, turn, Recorder.consume]
  | shutdown => simp [move, shutdown]

theorem closed_moved (recorder : Recorder) (moves : List Move) :
    (recorder.moved moves).closed = true ↔
      recorder.closed = true ∨ .shutdown ∈ moves := by
  induction moves generalizing recorder with
  | nil => simp [moved]
  | cons m rest ih =>
      change ((recorder.move m).moved rest).closed = true ↔ _
      rw [ih, closed_move, List.mem_cons, or_assoc, eq_comm (a := m)]

/-- A closed recorder with nothing left to count stays as it is. -/
theorem moved_of_closed (hclosed : recorder.closed = true)
    (hempty : recorder.queue = []) (moves : List Move) :
    recorder.moved moves = recorder := by
  have hmove : ∀ m, recorder.move m = recorder := by
    obtain ⟨_, _, _, _⟩ := recorder
    subst hclosed hempty
    intro m
    cases m with
    | turn turn => cases turn <;> rfl
    | shutdown => rfl
  induction moves with
  | nil => rfl
  | cons m rest ih =>
      change (recorder.move m).moved rest = recorder
      rw [hmove, ih]

end NamedSql.Recorder
