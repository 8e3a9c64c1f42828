import NamedSql.Proofs.Execute.Planning
import NamedSql.Proofs.Session.Recording
import NamedSql.Script.Run

/-!
What calls record. A call of a statement records under the id of the statement,
whatever clauses it settles: executions one by one as they succeed, single or as
rows of a batch, in the second pass as in the first, and a query once it has
reached the backend, however it is answered. Reading rows, giving statements
back and ending transactions records nothing.
-/

namespace NamedSql

open Backend Session

variable {σ : Type}

namespace Statement

theorem normalize_id {dialect : Dialect} {s normal : Statement}
    (h : s.normalize dialect = .ok normal) : normal.id = s.id := by
  rw [normalize] at h
  split at h
  · cases h
  · cases h
    rfl

theorem settled_id {dialect : Dialect} {s settled : Statement}
    {parameters : List Param} (h : s.settled dialect parameters = .ok settled) :
    settled.id = s.id := by
  rw [Statement.settled] at h
  split at h
  · split at h
    · cases h
    · next presence _ =>
        cases hrefined : s.refine dialect presence with
        | error e =>
            rw [hrefined] at h
            cases h
        | ok refined =>
            rw [hrefined] at h
            cases h
            -- splicing the clauses changes the text alone
            exact normalize_id (s := s.splice _) hrefined
  · cases h
    rfl

end Statement

namespace Plan

variable {dialect : Dialect} {s : Statement} {parameters : List Param}
  {plan : Plan}

/-- The statement that a plan runs. -/
def statement : Plan → Statement
  | .single s _ => s
  | .batch s _ => s

theorem bindOrBatch_statement {arrangement : Arrangement}
    (h : bindOrBatch dialect s arrangement = .ok plan) :
    plan.statement = s := by
  obtain ⟨rows, -, rfl⟩ | ⟨binding, -, rfl⟩ := bindOrBatch_eq_ok_iff.mp h
  · rfl
  · rfl

theorem execution_id (h : execution dialect s parameters = .ok plan) :
    plan.statement.id = s.id := by
  obtain ⟨-, settled, arrangement, hsettled, -, hplan⟩ :=
    execution_eq_ok_iff.mp h
  rw [bindOrBatch_statement hplan]
  exact Statement.settled_id hsettled

theorem rows_id {list : List Param} (h : rows dialect s list = .ok plan) :
    plan.statement.id = s.id := by
  obtain ⟨-, settled, hsettled, rfl⟩ := rows_eq_ok_iff.mp h
  exact Statement.settled_id hsettled

theorem query_id {settled : Statement} {binding : Binding}
    (h : query dialect s parameters = .ok (settled, binding)) :
    settled.id = s.id :=
  Statement.settled_id (query_eq_ok_iff.mp h).2.1

end Plan

variable {backend : Backend σ}

namespace Batch

/-- Each row that was executed is recorded, also one that stops the batch for
want of an id. -/
theorem executeRows_counted (s : Statement) (statement : Prepared) (index : Nat)
    (tally : Tally) (rows : List Param) :
    Records (executeRows backend s statement index tally rows) fun _ =>
      Counted s.id := by
  induction rows generalizing index tally with
  | nil => exact .pure (counted_additive s.id).nil
  | cons row rest ih =>
      rw [executeRows]
      cases s.bindRow row with
      | error cause => exact .pure (counted_additive s.id).nil
      | ok arguments =>
          apply (print_records _).bind_idle
          intro _
          apply (time_records backend).bind_idle
          intro start
          apply (ask_records backend _).bind
          rintro (e | outcome) _ _ ⟨rfl, rfl⟩
          · exact .pure rfl
          · apply (record_records backend s.id start).bind
            rintro _ _ _ ⟨rfl, rfl⟩
            let event : Event :=
              ⟨.execPrepared statement arguments, .ok outcome⟩
            have hrow : Counted s.id [event] [s.id] := rfl
            cases insertId s outcome with
            | error e => exact .pure hrow
            | ok id =>
                apply (ih (index + 1) (tally.push id outcome.rows)).mono
                intro _ trail ids hrest
                change Counted s.id ([event] ++ trail) ([s.id] ++ ids)
                exact (counted_additive s.id).append hrow hrest

theorem pass_counted (s : Statement) (rows : List Param) :
    Records (pass backend s rows) fun _ => Counted s.id := by
  have hadditive := counted_additive s.id
  rw [pass]
  cases check s rows with
  | error refusal => exact .pure hadditive.nil
  | ok _ =>
      have hprepared :
          Records (prepare backend s.resolved) fun _ => Counted s.id :=
        (prepare_records backend s.resolved).mono fun _ _ _ h =>
          h.1.counted s.id
      apply hprepared.bind_additive hadditive
      rintro (e | statement)
      · exact .pure hadditive.nil
      · apply (print_records _).bind_idle
        intro _
        apply (executeRows_counted s statement 0 .empty rows).bind_additive
          hadditive
        intro done
        apply Records.bind_additive hadditive
          ((releaseOrWarn_quiet backend statement _).mono fun _ _ _ h =>
            h.counted s.id)
        intro _
        exact .pure hadditive.nil

/-- The rows of both passes are recorded. -/
theorem execute_counted (s : Statement) (rows : List Param) :
    Records (execute backend s rows) fun _ => Counted s.id := by
  have hadditive := counted_additive s.id
  rw [execute]
  apply (pass_counted s rows).bind_additive hadditive
  intro first
  cases first.failure with
  | none => exact .pure hadditive.nil
  | some cause =>
      simp only
      split
      · apply (warn_records _).bind_idle
        intro _
        apply (pass_counted s _).bind_additive hadditive
        intro second
        cases second.failure with
        | none => exact .pure hadditive.nil
        | some cause => exact .pure hadditive.nil
      · exact .pure hadditive.nil

end Batch

namespace Session

theorem carryOut_counted (plan : Plan) :
    Records (carryOut backend plan) fun _ => Counted plan.statement.id := by
  cases plan with
  | batch s rows => exact Batch.execute_counted s rows
  | single s binding =>
      apply (print_records _).bind_idle
      intro _
      apply (time_records backend).bind_idle
      intro start
      apply (exec_records backend binding.sql binding.arguments).bind
      rintro (e | outcome) _ _ ⟨⟨marked, rfl⟩, rfl⟩
      · exact .pure rfl
      · apply (record_records backend s.id start).bind
        rintro _ _ _ ⟨rfl, rfl⟩
        exact .pure rfl

theorem run_counted (s : Statement) {planned : Except Cause Plan}
    (hplanned : ∀ plan, planned = .ok plan → plan.statement.id = s.id) :
    Records (run backend s planned) fun _ => Counted s.id := by
  cases planned with
  | error cause => exact .pure (counted_additive s.id).nil
  | ok plan =>
      rw [← hplanned plan rfl]
      apply (carryOut_counted plan).bind_additive (counted_additive _)
      intro outcome
      exact .pure (counted_additive _).nil

theorem execute_counted (dialect : Dialect) (s : Statement)
    (parameters : List Param) :
    Records (execute backend dialect s parameters) fun _ => Counted s.id :=
  run_counted s fun _ => Plan.execution_id

theorem executeRows_counted (dialect : Dialect) (s : Statement)
    (rows : List Param) :
    Records (executeRows backend dialect s rows) fun _ => Counted s.id :=
  run_counted s fun _ => Plan.rows_id

/-- A query that asked the backend for anything is recorded, once. -/
def CountedOnce (id : String) (trail : List Event) (ids : List String) : Prop :=
  ids = List.replicate (if trail.isEmpty then 0 else 1) id

theorem openCursor_counted (dialect : Dialect) (naming : Naming) (s : Statement)
    (parameters : List Param) :
    Records (openCursor backend dialect naming s parameters) fun _ =>
      CountedOnce s.id := by
  rw [openCursor]
  cases hplan : Plan.query dialect s parameters with
  | error cause => exact .pure rfl
  | ok planned =>
      obtain ⟨settled, binding⟩ := planned
      apply (print_records _).bind_idle
      intro _
      apply (time_records backend).bind_idle
      intro start
      apply (query_records backend _ _).bind
      rintro opened trail _ ⟨hasked, rfl⟩
      apply (record_records backend settled.id start).bind
      rintro _ _ _ ⟨rfl, rfl⟩
      have hcounted :
          CountedOnce s.id (trail ++ ([] ++ []))
            ([] ++ ([settled.id] ++ [])) := by
        rw [Plan.query_id hplan]
        simp [CountedOnce, hasked]
      cases opened with
      | error e => exact .pure hcounted
      | ok opened => exact .pure hcounted

end Session

namespace Bulk

/-- Executed or not, a bulk stays one for its statement. -/
theorem execute_counted (dialect : Dialect) (bulk : Bulk) :
    Records (bulk.execute backend dialect) fun result trail ids =>
      result.2.statement = bulk.statement ∧
        Counted bulk.statement.id trail ids := by
  rw [Bulk.execute]
  split
  · exact .pure ⟨rfl, rfl⟩
  · apply (executeRows_counted dialect bulk.statement bulk.rows).bind
    rintro (failure | tally) trail ids hcounted
    · exact .pure ⟨rfl, by simpa using hcounted⟩
    · exact .pure ⟨rfl, by simpa using hcounted⟩

end Bulk

namespace Cursor

theorem drop_quiet (cursor : Cursor) :
    Records (cursor.drop : Action σ Unit) fun _ => Quiet := by
  rw [drop]
  split
  · exact .pure quiet_additive.nil
  · exact (warn_records _).mono fun _ _ _ => Idle.quiet

theorem next_quiet (cursor : Cursor) :
    Records (cursor.next backend) fun _ => Quiet := by
  rw [next]
  split
  · exact .pure quiet_additive.nil
  · apply Records.bind_additive quiet_additive (ask_quiet backend _ rfl)
    rintro (e | reply)
    · exact .pure quiet_additive.nil
    · simp only
      split
      · exact .pure quiet_additive.nil
      · exact .pure quiet_additive.nil

theorem close_quiet (cursor : Cursor) :
    Records (cursor.close backend) fun _ => Quiet := by
  have hstatement : Records (cursor.closeStatement backend) fun _ => Quiet := by
    rw [closeStatement]
    cases cursor.statement with
    | none => exact .pure quiet_additive.nil
    | some statement => exact ask_quiet backend _ rfl
  rw [close]
  split
  · exact .pure quiet_additive.nil
  · apply Records.bind_additive quiet_additive (ask_quiet backend _ rfl)
    intro rows
    apply hstatement.bind_additive quiet_additive
    intro outcome
    exact .pure quiet_additive.nil

theorem collect_quiet (fresh : Destination) (limit : Nat) (cursor : Cursor) :
    Records (collect backend fresh limit cursor) fun _ => Quiet := by
  induction limit generalizing cursor with
  | zero => exact .pure quiet_additive.nil
  | succ limit ih =>
      rw [collect]
      apply (next_quiet cursor).bind_additive quiet_additive
      rintro ⟨cause | _ | _, cursor⟩
      · exact .pure quiet_additive.nil
      · exact .pure quiet_additive.nil
      · simp only
        split
        · exact .pure quiet_additive.nil
        · apply (ih cursor).bind_additive quiet_additive
          intro rest
          exact .pure quiet_additive.nil

theorem fetchAll_quiet (fresh : Destination) (cursor : Cursor) :
    Records (cursor.fetchAll backend fresh) fun _ => Quiet := by
  apply (collect_quiet fresh _ cursor).bind_additive quiet_additive
  rintro ⟨collected, cursor⟩
  apply (close_quiet cursor).bind_additive quiet_additive
  intro closed
  exact .pure quiet_additive.nil

theorem scanRow_quiet (destination : Destination) (cursor : Cursor) :
    Records (cursor.scanRow backend destination) fun _ => Quiet := by
  have hscanned :
      Records (cursor.scanNext backend destination) fun _ => Quiet := by
    apply (next_quiet cursor).bind_additive quiet_additive
    rintro ⟨cause | _ | _, cursor⟩
    · exact .pure quiet_additive.nil
    · exact .pure quiet_additive.nil
    · exact .pure quiet_additive.nil
  apply hscanned.bind_additive quiet_additive
  rintro ⟨scanned, cursor⟩
  apply (close_quiet cursor).bind_additive quiet_additive
  intro closed
  exact .pure quiet_additive.nil

end Cursor

namespace Script

theorem runCursorStep_quiet (cursor : Cursor) (step : CursorStep) :
    Records (runCursorStep backend cursor step) fun _ => Quiet := by
  cases step with
  | next =>
      apply (cursor.next_quiet).bind_additive quiet_additive
      rintro ⟨cause | found, cursor⟩
      · exact .pure quiet_additive.nil
      · exact .pure quiet_additive.nil
  | scan into => exact .pure quiet_additive.nil
  | close =>
      apply (cursor.close_quiet).bind_additive quiet_additive
      intro closed
      exact .pure quiet_additive.nil
  | info => exact .pure quiet_additive.nil
  | all fresh =>
      apply (cursor.fetchAll_quiet fresh).bind_additive quiet_additive
      rintro (cause | rows)
      · exact .pure quiet_additive.nil
      · exact .pure quiet_additive.nil

theorem runRowStep_quiet (cursor : Cursor) (step : RowStep) :
    Records (runRowStep backend cursor step) fun _ => Quiet := by
  cases step with
  | scan into =>
      apply (cursor.scanRow_quiet into).bind_additive quiet_additive
      intro result
      exact .pure quiet_additive.nil
  | close =>
      apply (cursor.close_quiet).bind_additive quiet_additive
      intro closed
      exact .pure quiet_additive.nil
  | drop =>
      apply inTransaction_records.bind_idle
      intro marked
      apply (cursor.drop_quiet).bind_additive quiet_additive
      intro _
      exact .pure quiet_additive.nil

/-- Every execution of a bulk counts for the statement that it was made for. -/
theorem runBulkSteps_counted (mapper : Mapper σ) {s : Statement} {bulk : Bulk}
    (h : bulk.statement = s) (steps : List BulkStep) :
    Records (runBulkSteps mapper bulk steps) fun _ => Counted s.id := by
  have hadditive := counted_additive s.id
  induction steps generalizing bulk with
  | nil => exact .pure hadditive.nil
  | cons step rest ih =>
      have hrest (bulk : Bulk) (h : bulk.statement = s) (result : Result) :
          Records (do return result :: (← runBulkSteps mapper bulk rest))
            fun _ => Counted s.id := by
        apply (ih h).bind_additive hadditive
        intro results
        exact .pure hadditive.nil
      cases step with
      | execute =>
          apply (bulk.execute_counted mapper.dialect).bind
          rintro ⟨outcome, after⟩ trail ids ⟨hsame, hcounted⟩
          apply (hrest after (hsame.trans h) _).mono
          intro _ later others hlater
          exact hadditive.append (h ▸ hcounted) hlater
      | add rows => exact hrest _ (by rwa [Bulk.foldl_add]) _
      | size => exact hrest bulk h _
      | clear => exact hrest bulk.clear h _
      | describe => exact hrest bulk h _

end Script

namespace Transaction

theorem closePrepared_quiet (held : List Prepared) :
    Records (closePrepared backend held) fun _ => Quiet := by
  induction held with
  | nil => exact .pure quiet_additive.nil
  | cons statement rest ih =>
      apply Records.bind_additive quiet_additive (ask_quiet backend _ rfl)
      rintro (e | reply)
      · apply (warn_records _).bind_idle
        intro _
        exact ih
      · exact ih

theorem exit_records (outer : Scope) :
    Records (exit outer : Action σ (List Prepared)) fun _ => Idle :=
  (swapScope_records outer).then_idle fun _ => .pure ⟨rfl, rfl⟩

theorem abandon_quiet : Records (abandon backend) fun _ => Quiet := by
  apply (warn_records _).bind_idle
  intro _
  apply Records.bind_additive quiet_additive (ask_quiet backend .abandon rfl)
  intro answer
  exact .pure quiet_additive.nil

end Transaction

/-- Ending a transaction runs nothing. -/
theorem Script.finish_quiet (mapper : Mapper σ) (held : List Prepared)
    (ending : Ending) : Records (finish mapper held ending) fun _ => Quiet := by
  have hclosed (call : Call) (h : call.runs = false) :
      Records (do
        Transaction.closePrepared mapper.backend held
        ask mapper.backend call) fun _ => Quiet := by
    apply (Transaction.closePrepared_quiet held).bind_additive quiet_additive
    intro _
    exact ask_quiet mapper.backend call h
  cases ending with
  | commit =>
      apply (hclosed .commit rfl).bind_additive quiet_additive
      intro outcome
      exact .pure quiet_additive.nil
  | rollback =>
      apply (hclosed .rollback rfl).bind_additive quiet_additive
      intro outcome
      exact .pure quiet_additive.nil
  | drop =>
      apply Transaction.abandon_quiet.bind_additive quiet_additive
      intro _
      exact .pure quiet_additive.nil

end NamedSql
