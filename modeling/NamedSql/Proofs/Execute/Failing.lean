import NamedSql.Backend.Scripted
import NamedSql.Proofs.Batch.Report
import NamedSql.Proofs.Execute.Recording

/-!
How calls fail. A call that cannot be planned is refused: the fault lies with
its caller, and the session stays as it was. A plan that is carried out fails by
the driver, which has then been asked, or as a batch that stopped. Either way
the failure is one cause under one layer, and the layer names the statement.
-/

namespace NamedSql

open Session

variable {σ : Type}

/-- A fault of the caller, in the parameters or in the statement that is
called. -/
def Cause.ofCaller : Cause → Bool
  | .statement _ => true
  | cause => cause.ofParameters

theorem Cause.ofCaller_of_ofParameters {cause : Cause}
    (h : cause.ofParameters) : cause.ofCaller := by
  cases cause with
  | param e => rfl
  | bind e => rfl
  | statement e => rfl
  | result | driver | conversion | config => cases h

theorem Cause.ne_driver_of_ofCaller {cause : Cause} (h : cause.ofCaller)
    (e : DriverError) : cause ≠ .driver e := by
  rintro rfl
  cases h

namespace Statement

variable {dialect : Dialect} {s : Statement} {cause : Cause}

theorem bind_error {arrangement : Arrangement}
    (h : s.bind dialect arrangement = .error cause) : cause.ofParameters := by
  cases arrangement with
  | empty => cases h
  | positional values => exact bindPositional_error h
  | named values presence => exact bindNamed_error h
  | rows rows =>
      cases h
      rfl

theorem settled_error {parameters : List Param}
    (h : s.settled dialect parameters = .error cause) : cause.ofCaller := by
  rw [settled] at h
  split at h
  · split at h
    · cases h
      rfl
    · next presence _ =>
        cases hrefined : s.refine dialect presence with
        | ok refined =>
            rw [hrefined] at h
            cases h
        | error e =>
            rw [hrefined] at h
            cases h
            rfl
  · cases h

end Statement

namespace Plan

variable {dialect : Dialect} {s : Statement} {parameters : List Param}
  {cause : Cause}

theorem execution_error (h : execution dialect s parameters = .error cause) :
    cause.ofCaller := by
  rw [execution] at h
  split at h
  · cases h
    rfl
  rcases Fallible.bind_eq_error_iff.mp h with hsettled | ⟨settled, -, h⟩
  · exact Statement.settled_error hsettled
  split at h
  · cases h
    rfl
  · next arrangement _ =>
      cases arrangement with
      | rows rows => cases h
      | empty | positional | named =>
          exact Cause.ofCaller_of_ofParameters
            (Statement.bind_error (Fallible.map_eq_error_iff.mp h))

theorem rows_error {list : List Param}
    (h : rows dialect s list = .error cause) : cause.ofCaller := by
  rw [rows] at h
  split at h
  · cases h
    rfl
  rcases Fallible.bind_eq_error_iff.mp h with hsettled | ⟨settled, -, h⟩
  · exact Statement.settled_error hsettled
  · cases h

theorem query_error (h : query dialect s parameters = .error cause) :
    cause.ofCaller := by
  rw [query] at h
  split at h
  · cases h
    rfl
  rcases Fallible.bind_eq_error_iff.mp h with hsettled | ⟨settled, -, h⟩
  · exact Statement.settled_error hsettled
  split at h
  · cases h
    rfl
  · rcases Fallible.bind_eq_error_iff.mp h with hbound | ⟨_, -, h⟩
    · exact Cause.ofCaller_of_ofParameters (Statement.bind_error hbound)
    · cases h

end Plan

namespace Session

variable {backend : Backend σ}

theorem exec_asks (sql : String) (arguments : List Value) :
    Leaves backend (exec backend sql arguments) fun _ trail => trail ≠ [] := by
  apply (inTransaction_aside.leaves backend).bind_silent
  intro marked
  apply (ask_leaves backend _).mono
  rintro answer _ rfl
  exact List.cons_ne_nil _ _

theorem queryPrepared_asks (statement : Prepared) (arguments : List Value) :
    Leaves backend (queryPrepared backend statement arguments) fun _ trail =>
      trail ≠ [] := by
  apply (nextNumber_silent.leaves backend).bind_silent
  intro cursor
  apply (ask_leaves backend _).bind
  rintro (e | result) _ rfl
  · exact .pure (by simp)
  · exact .pure (by simp)

/-- What is queried asks the backend, if only to prepare the statement. -/
theorem query_asks (sql : String) (arguments : List Value) :
    Leaves backend (query backend sql arguments) fun _ trail => trail ≠ [] := by
  rw [query]
  split
  · apply (nextNumber_silent.leaves backend).bind_silent
    intro cursor
    apply (inTransaction_aside.leaves backend).bind_silent
    intro marked
    apply (ask_leaves backend _).bind
    rintro (e | result) _ rfl
    · exact .pure (by simp)
    · exact .pure (by simp)
  · apply (prepare_leaves backend sql).bind
    rintro (e | statement) left hprepares
    · obtain ⟨statement, rfl⟩ := hprepares
      exact .pure (by simp)
    · apply (queryPrepared_asks statement arguments).bind
      rintro (e | opened) right hright
      · apply (releaseOrWarn_leaves backend statement _).bind
        intro _ closing _
        exact .pure (by simp [hright])
      · exact .pure (by simp [hright])

/-- A call has failed on its own, not as a batch: it was refused, and nothing
has happened, or the driver that it asked has failed it. -/
inductive Failed (id : String) (before after : Session σ) : Failure → Prop where
  | refused {cause : Cause} (caller : cause.ofCaller)
      (unchanged : after = before) :
      Failed id before after (.annotated id (.plain cause))
  | driven {e : DriverError} (asked : after.events ≠ before.events) :
      Failed id before after (.annotated id (.plain (.driver e)))

/-- A batch that has failed tells where it stopped. -/
theorem carryOut_batch_gives (s : Statement) (rows : List Param) :
    Gives (carryOut backend (.batch s rows)) fun result => ∀ failure,
      result = .error failure →
      ∃ row applied cause,
        failure = .batch s.id row applied (.plain cause) := by
  intro before failure hfailure
  obtain ⟨trail, -, hran⟩ := Batch.execute_leaves backend s rows before
  change Batch.Ran s rows trail
    ((carryOut backend (.batch s rows)).run before).1 at hran
  rw [hfailure] at hran
  obtain ⟨row, applied, cause, rfl, -⟩ := hran.incomplete
  exact ⟨row, applied, cause, rfl⟩

theorem carryOut_single_leaves (s : Statement) (binding : Binding) :
    Leaves backend (carryOut backend (.single s binding)) fun result trail =>
      trail ≠ [] ∧ ∀ failure, result = .error failure → ∃ e,
        failure = .plain (.driver e) := by
  apply (print_leaves backend _).bind_silent
  intro _
  apply (time_leaves backend).bind_silent
  intro start
  apply (exec_asks binding.sql binding.arguments).bind
  rintro (e | outcome) trail hasked
  · exact .pure ⟨by simpa using hasked,
      fun failure h => ⟨e, (Except.error.inj h).symm⟩⟩
  · apply (record_leaves backend s.id start).bind_silent
    intro _
    exact .pure ⟨by simpa using hasked, by rintro _ ⟨⟩⟩

theorem Extends.events_ne {before after : Session σ}
    {trail : List Backend.Event} (h : Extends backend before trail after)
    (hasked : trail ≠ []) : after.events ≠ before.events := by
  rw [h.events]
  simpa using hasked

/-- Carrying out a plan fails by the driver, which was asked, or as the batch
that was planned. -/
theorem carryOut_failed (plan : Plan) (before : Session σ) {failure : Failure}
    (h : ((carryOut backend plan).run before).1 = .error failure) :
    (((carryOut backend plan).run before).2.events ≠ before.events ∧
        ∃ e, failure = .plain (.driver e)) ∨
      ∃ row applied cause,
        failure = .batch plan.statement.id row applied (.plain cause) := by
  cases plan with
  | batch s rows => exact .inr (carryOut_batch_gives s rows before failure h)
  | single s binding =>
      obtain ⟨trail, hextends, hasked, hdriver⟩ :=
        carryOut_single_leaves s binding before
      exact .inl ⟨hextends.events_ne hasked, hdriver failure h⟩

/-- A planned call fails on its own, or as the batch that was planned. -/
theorem run_failed (s : Statement) {planned : Except Cause Plan}
    (hrefused : ∀ cause, planned = .error cause → cause.ofCaller)
    (hid : ∀ plan, planned = .ok plan → plan.statement.id = s.id)
    (before : Session σ) {failure : Failure}
    (h : ((run backend s planned).run before).1 = .error failure) :
    Failed s.id before ((run backend s planned).run before).2 failure ∨
      ∃ row applied cause,
        failure = .batch s.id row applied (.plain cause) := by
  cases planned with
  | error cause =>
      obtain rfl := Except.error.inj h
      exact .inl (.refused (hrefused cause rfl) rfl)
  | ok plan =>
      have hrun : (run backend s (.ok plan)).run before =
          (((carryOut backend plan).run before).1.mapError
            (Failure.inStatement s.id),
            ((carryOut backend plan).run before).2) := rfl
      rw [hrun] at h ⊢
      cases hresult : ((carryOut backend plan).run before).1 with
      | ok tally =>
          rw [hresult] at h
          cases h
      | error inner =>
          rw [hresult] at h
          obtain rfl := Except.error.inj h
          obtain ⟨hasked, e, rfl⟩ | ⟨row, applied, cause, rfl⟩ :=
            carryOut_failed plan before hresult
          · exact .inl (.driven hasked)
          · -- the layer of the batch names the statement already
            exact .inr ⟨row, applied, cause, by rw [← hid plan rfl]; rfl⟩

theorem execute_failed (dialect : Dialect) (s : Statement)
    (parameters : List Param) (before : Session σ) {failure : Failure}
    (h : ((execute backend dialect s parameters).run before).1 =
      .error failure) :
    Failed s.id before ((execute backend dialect s parameters).run before).2
        failure ∨
      ∃ row applied cause, failure = .batch s.id row applied (.plain cause) :=
  run_failed s (fun _ => Plan.execution_error) (fun _ => Plan.execution_id)
    before h

theorem executeRows_failed (dialect : Dialect) (s : Statement)
    (rows : List Param) (before : Session σ) {failure : Failure}
    (h : ((executeRows backend dialect s rows).run before).1 = .error failure) :
    Failed s.id before ((executeRows backend dialect s rows).run before).2
        failure ∨
      ∃ row applied cause, failure = .batch s.id row applied (.plain cause) :=
  run_failed s (fun _ => Plan.rows_error) (fun _ => Plan.rows_id) before h

/-- A query fails by what was wrong with its plan, or by the driver, which was
asked. -/
theorem openCursor_leaves (dialect : Dialect) (naming : Naming) (s : Statement)
    (parameters : List Param) :
    Leaves backend (openCursor backend dialect naming s parameters)
        fun result trail =>
      ∀ failure, result = .error failure →
        (∃ cause, Plan.query dialect s parameters = .error cause ∧
          failure = .annotated s.id (.plain cause)) ∨
        trail ≠ [] ∧ ∃ e, failure = .annotated s.id (.plain (.driver e)) := by
  rw [openCursor]
  cases Plan.query dialect s parameters with
  | error cause =>
      exact .pure fun failure h => .inl ⟨cause, rfl, (Except.error.inj h).symm⟩
  | ok planned =>
      apply (print_leaves backend _).bind_silent
      intro _
      apply (time_leaves backend).bind_silent
      intro start
      apply (query_asks _ _).bind
      intro opened trail hasked
      apply (record_leaves backend _ start).bind_silent
      intro _
      cases opened with
      | error e =>
          exact .pure fun failure h =>
            .inr ⟨by simpa using hasked, e, (Except.error.inj h).symm⟩
      | ok opened => exact .pure (by rintro _ ⟨⟩)

theorem openCursor_failed (dialect : Dialect) (naming : Naming) (s : Statement)
    (parameters : List Param) (before : Session σ) {failure : Failure}
    (h : ((openCursor backend dialect naming s parameters).run before).1 =
      .error failure) :
    Failed s.id before ((openCursor backend dialect naming s parameters).run
      before).2 failure := by
  obtain ⟨trail, hextends, hfailed⟩ :=
    openCursor_leaves dialect naming s parameters before
  obtain ⟨cause, hplan, rfl⟩ | ⟨hasked, e, rfl⟩ := hfailed failure h
  · refine .refused (Plan.query_error hplan) ?_
    rw [openCursor, hplan]
    rfl
  · exact .driven (hextends.events_ne hasked)

end Session

/-- What failed on its own left everything as it was, unless it was the driver
that failed it. -/
theorem Session.Failed.unchanged_iff {id : String} {before after : Session σ}
    {failure : Failure} (h : Failed id before after failure) :
    after = before ↔ ∀ e, failure.root ≠ .driver e := by
  cases h with
  | refused caller unchanged =>
      exact ⟨fun _ e => Cause.ne_driver_of_ofCaller caller e,
        fun _ => unchanged⟩
  | @driven e asked =>
      constructor
      · rintro rfl
        exact absurd rfl asked
      · intro hroot
        exact absurd rfl (hroot e)

theorem Mapper.find_error (mapper : Mapper σ) {id : String} {failure : Failure}
    (h : mapper.find id = .error failure) :
    ∃ e, failure = .plain (.statement e) := by
  rw [Mapper.find] at h
  cases hfound : mapper.registry.find mapper.dialect id with
  | ok s =>
      rw [hfound] at h
      cases h
  | error e =>
      rw [hfound] at h
      exact ⟨e, (Except.error.inj h).symm⟩

/-- A rejected call changes nothing. A call to execute that fails otherwise than
as a batch, and a query that fails, leave the session as it was, with no call,
no record and no line more, exactly if it was not the driver that failed them.
The session may be in a transaction or not. -/
theorem Mapper.rejected_call_changes_nothing (mapper : Mapper σ) (id : String)
    (parameters : List Param) (before : Session σ) :
    (∀ failure, ((mapper.execute id parameters).run before).1 = .error failure →
      (∀ name row applied source, failure ≠ .batch name row applied source) →
      (((mapper.execute id parameters).run before).2 = before ↔
        ∀ e, failure.root ≠ .driver e)) ∧
    ∀ failure, ((mapper.openCursor id parameters).run before).1 =
      .error failure →
      (((mapper.openCursor id parameters).run before).2 = before ↔
        ∀ e, failure.root ≠ .driver e) := by
  rw [Mapper.execute, Mapper.openCursor]
  cases hfind : mapper.find id with
  | error failure =>
      -- without a statement there is no call
      obtain ⟨e, rfl⟩ := mapper.find_error hfind
      constructor
      · intro failure hfailure _
        obtain rfl := Except.error.inj hfailure
        exact ⟨fun _ _ hdriver => (by cases hdriver), fun _ => rfl⟩
      · intro failure hfailure
        obtain rfl := Except.error.inj hfailure
        exact ⟨fun _ _ hdriver => (by cases hdriver), fun _ => rfl⟩
  | ok s =>
      constructor
      · intro failure hfailure hsingle
        obtain hfailed | ⟨row, applied, cause, rfl⟩ :=
          execute_failed mapper.dialect s parameters before hfailure
        · exact hfailed.unchanged_iff
        · exact absurd rfl (hsingle _ _ _ _)
      · intro failure hfailure
        exact (openCursor_failed mapper.dialect _ s parameters before
          hfailure).unchanged_iff

/-- In a transaction that holds the very statement, a name that is not given and
a query of a statement that writes change nothing; an execution that the driver
fails does. -/
theorem Mapper.rejected_call_changes_nothing_in_transaction :
    let s : Statement :=
      ⟨"setA", .update, "UPDATE t SET a = :a", [], [⟨"a", 18, .single⟩],
        "UPDATE t SET a = ?", "UPDATE t SET a = ?"⟩
    let script : Backend.Script :=
      ⟨[], [⟨.exec, 1, .failed "locked"⟩], [], false, 1⟩
    let mapper : Mapper Backend.Scripted :=
      ⟨⟨"mysql", none, none, none, none, none, true, 0, 0,
        none, .snake, true, 1, []⟩, script.backend, .question, ⟨[("SETA", s)]⟩⟩
    let before : Session Backend.Scripted := { mapper.session script.start with
      scope := .transaction [⟨0, s.resolved, true⟩] }
    let unnamed :=
      (mapper.execute "seta" [.record [("b", .scalar .null)]]).run before
    let misused := (mapper.openCursor "setA" []).run before
    let locked := (mapper.execute "setA" [.scalar .null]).run before
    unnamed.1 = .error (.annotated "setA" (.plain (.bind (.missingKey "a")))) ∧
      unnamed.2 = before ∧
      misused.1 =
        .error (.annotated "setA" (.plain (.statement .notQueryable))) ∧
      misused.2 = before ∧
      locked.1 =
        .error (.annotated "setA" (.plain (.driver (.failed "locked")))) ∧
      locked.2 ≠ before := by
  intro s script mapper before unnamed misused locked
  have hunnamed : unnamed.1 =
      .error (.annotated "setA" (.plain (.bind (.missingKey "a")))) := by
    decide +kernel
  have hmisused : misused.1 =
      .error (.annotated "setA" (.plain (.statement .notQueryable))) := by
    decide +kernel
  have hlocked : locked.1 =
      .error (.annotated "setA" (.plain (.driver (.failed "locked")))) := by
    decide +kernel
  refine ⟨hunnamed, ?_, hmisused, ?_, hlocked, ?_⟩
  · exact ((mapper.rejected_call_changes_nothing "seta" _ before).1 _ hunnamed
      (fun _ _ _ _ h => by cases h)).mpr fun _ h => by cases h
  · exact ((mapper.rejected_call_changes_nothing "setA" _ before).2 _
      hmisused).mpr fun _ h => by cases h
  · intro hsame
    exact ((mapper.rejected_call_changes_nothing "setA" _ before).1 _ hlocked
      (fun _ _ _ _ h => by cases h)).mp hsame _ rfl

/-- One layer around a cause, which names the statement. It is the layer of a
batch exactly if the failure tells a row and a tally. -/
def Failure.NamesOnce (id : String) (failure : Failure) : Prop :=
  (failure = .annotated id (.plain failure.root) ∧
      failure.failedRow? = none ∧ failure.partialTally? = none) ∨
    ∃ row applied, failure = .batch id row applied (.plain failure.root) ∧
      failure.failedRow? = some row ∧ failure.partialTally? = some applied

namespace Session

variable {backend : Backend σ}

theorem Failed.namesOnce {id : String} {before after : Session σ}
    {failure : Failure} (h : Failed id before after failure) :
    failure.NamesOnce id := by
  cases h with
  | refused caller unchanged => exact .inl ⟨rfl, rfl, rfl⟩
  | driven asked => exact .inl ⟨rfl, rfl, rfl⟩

theorem namesOnce_of_batch {id : String} {failure : Failure}
    (h : ∃ row applied cause, failure = .batch id row applied (.plain cause)) :
    failure.NamesOnce id := by
  obtain ⟨row, applied, cause, rfl⟩ := h
  exact .inr ⟨row, applied, rfl, rfl, rfl⟩

/-- A failing call of a statement names the statement once, whatever the backend
answers: around its cause there is one layer, that of the statement or that of
its batch. -/
theorem failures_name_statement_once (backend : Backend σ) (dialect : Dialect)
    (s : Statement) (before : Session σ) :
    (∀ parameters failure,
      ((execute backend dialect s parameters).run before).1 = .error failure →
        failure.NamesOnce s.id) ∧
    (∀ naming parameters failure,
      ((openCursor backend dialect naming s parameters).run before).1 =
        .error failure →
        failure.NamesOnce s.id) ∧
    ∀ rows failure, ((executeRows backend dialect s rows).run before).1 =
      .error failure →
      failure.NamesOnce s.id := by
  refine ⟨?_, ?_, ?_⟩
  · intro parameters failure h
    exact (execute_failed dialect s parameters before h).elim Failed.namesOnce
      namesOnce_of_batch
  · intro naming parameters failure h
    exact (openCursor_failed dialect naming s parameters before h).namesOnce
  · intro rows failure h
    exact (executeRows_failed dialect s rows before h).elim Failed.namesOnce
      namesOnce_of_batch

/-- The second pass of a list of rows stops, a query loses the connection, and
rows are given to a statement whose clause does not settle. -/
theorem failures_name_statement_once_after_resuming :
    let s : Statement :=
      ⟨"setA", .update, "UPDATE t SET a = :a", [], [⟨"a", 18, .single⟩],
        "UPDATE t SET a = ?", "UPDATE t SET a = ?"⟩
    let q : Statement :=
      ⟨"getA", .select, "SELECT a FROM t", [], [], "SELECT a FROM t",
        "SELECT a FROM t"⟩
    let script : Backend.Script :=
      ⟨[], [⟨.exec, 2, .badConnection⟩, ⟨.exec, 3, .failed "locked"⟩,
        ⟨.query, 1, .badConnection⟩], [], false, 1⟩
    let before : Session Backend.Scripted := .start script.start ⟨false, none⟩
    let row : Param := .sequence [.scalar .null]
    let stopped :=
      Failure.batch "setA" 1 ⟨[], 1⟩ (.plain (.driver (.failed "locked")))
    let lost := Failure.annotated "getA" (.plain (.driver .badConnection))
    let misused := Failure.annotated "getA" (.plain (.statement .notExecutable))
    ((execute script.backend .question s [.sequence [row, row, row]]).run
      before).1 =
        .error stopped ∧ stopped.NamesOnce "setA" ∧
      ((openCursor script.backend .question .exact q []).run before).1 =
        .error lost ∧
      lost.NamesOnce "getA" ∧
      ((executeRows script.backend .question q [row]).run before).1 =
        .error misused ∧
      misused.NamesOnce "getA" := by
  intro s q script before row stopped lost misused
  have hstopped :
      ((execute script.backend .question s [.sequence [row, row, row]]).run
        before).1 =
        .error stopped := by
    decide +kernel
  have hlost :
      ((openCursor script.backend .question .exact q []).run before).1 =
        .error lost := by
    decide +kernel
  have hmisused :
      ((executeRows script.backend .question q [row]).run before).1 =
        .error misused := by
    decide +kernel
  obtain ⟨-, hqueries, hrows⟩ :=
    failures_name_statement_once script.backend .question q before
  exact ⟨hstopped,
    (failures_name_statement_once script.backend .question s before).1 _ _
      hstopped, hlost,
    hqueries _ _ _ hlost, hmisused, hrows _ _ hmisused⟩

end Session

end NamedSql
