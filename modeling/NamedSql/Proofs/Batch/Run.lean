import NamedSql.Proofs.Session.Trail
import NamedSql.Proofs.Batch.Check
import Mathlib.Algebra.Ring.Int.Defs

/-!
What a batch asks of the backend, described by what it leaves behind. A pass
over the rows applies some rows and stops before the others; a batch is one
pass, or two passes of which the first lost the connection. Every run of a batch
has such a description, whatever the backend answers, and the theorems about
batches are read off the descriptions.
-/

namespace NamedSql

namespace Tally

theorem append_empty (tally : Tally) : tally.append .empty = tally := by
  simp [append, empty]

theorem empty_append (tally : Tally) : empty.append tally = tally := by
  simp [append, empty]

theorem append_assoc (first second third : Tally) :
    (first.append second).append third =
      first.append (second.append third) := by
  simp [append, List.append_assoc, Int.add_assoc]

/-- What outcomes amount to: only inserts generate ids. -/
def ofOutcomes (kind : StatementKind) (outcomes : List Outcome) : Tally :=
  ⟨if kind = .insert then outcomes.filterMap Outcome.insertId else [],
    (outcomes.map Outcome.rows).sum⟩

theorem ofOutcomes_nil (kind : StatementKind) :
    ofOutcomes kind [] = .empty := by
  simp [ofOutcomes, empty]

theorem ofOutcomes_append (kind : StatementKind) (left right : List Outcome) :
    ofOutcomes kind (left ++ right) =
      (ofOutcomes kind left).append (ofOutcomes kind right) := by
  simp only [ofOutcomes, append, List.filterMap_append, List.map_append,
    List.sum_append]
  split
  · rfl
  · rfl

end Tally

namespace Batch

open Backend

variable {σ : Type}

/-- An id is missing only where an insert did not report one. -/
theorem insertId_eq_error_iff {s : Statement} {outcome : Outcome}
    {e : ResultError} :
    insertId s outcome = .error e ↔ s.kind = .insert ∧ outcome.insertId = none ∧
      e = .missingInsertId "driver reported no generated id" := by
  rw [insertId]
  split
  · next hinsert =>
      split
      · next id hid => simp [hid]
      · next hid => simp [hinsert, hid, eq_comm]
  · next hother => simp [hother]

theorem insertId_eq_ok_iff {s : Statement} {outcome : Outcome}
    {id : Option Int} :
    insertId s outcome = .ok id ↔
      (if s.kind = .insert then outcome.insertId else none) = id ∧
        (s.kind = .insert → outcome.insertId.isSome) := by
  rw [insertId]
  split
  · next hinsert =>
      split
      · next found hid => simp [hinsert, hid]
      · next hid => simp [hinsert, hid]
  · next hother => simp [hother]

/-- A row counts with its outcome, whether or not an id was missing. -/
theorem push_of_insertId {s : Statement} {outcome : Outcome} {id : Option Int}
    (tally : Tally) (h : insertId s outcome = .ok id) :
    tally.push id outcome.rows =
      tally.append (.ofOutcomes s.kind [outcome]) := by
  obtain ⟨rfl, -⟩ := insertId_eq_ok_iff.mp h
  simp only [Tally.push, Tally.append, Tally.ofOutcomes]
  split
  · cases hid : outcome.insertId with
    | none => simp [hid]
    | some found => simp [hid]
  · simp

theorem push_of_missing {s : Statement} {outcome : Outcome} {e : ResultError}
    (tally : Tally) (h : insertId s outcome = .error e) :
    tally.push none outcome.rows =
      tally.append (.ofOutcomes s.kind [outcome]) := by
  obtain ⟨hinsert, hid, -⟩ := insertId_eq_error_iff.mp h
  simp [Tally.push, Tally.append, Tally.ofOutcomes, hinsert, hid]

/-- One row applied: its arguments were executed, and the outcome has the id
that it needs. -/
inductive Applied (s : Statement) : Param → Executed → Prop where
  | intro {row : Param} {arguments : List Value} {outcome : Outcome}
      {id : Option Int} (bound : s.bindRow row = .ok arguments)
      (identified : insertId s outcome = .ok id) :
      Applied s row ⟨arguments, .ok outcome⟩

/-- How a pass stops before the rows that are left, and what it executed last
for the first of them. Where the statement cannot be prepared, no row is looked
at. -/
inductive Stopped (s : Statement) :
    List Param → List Executed → Option Cause → Prop where
  | finished : Stopped s [] [] none
  | unprepared {rows : List Param} {e : DriverError} :
      Stopped s rows [] (some (.driver e))
  | unbound {row : Param} {rest : List Param} {cause : Cause}
      (failed : s.bindRow row = .error cause) :
      Stopped s (row :: rest) [] (some cause)
  | refused {row : Param} {rest : List Param} {arguments : List Value}
      {e : DriverError} (bound : s.bindRow row = .ok arguments) :
      Stopped s (row :: rest) [⟨arguments, .error e⟩] (some (.driver e))
  | withoutId {row : Param} {rest : List Param} {arguments : List Value}
      {outcome : Outcome} {e : ResultError}
      (bound : s.bindRow row = .ok arguments)
      (missing : insertId s outcome = .error e) :
      Stopped s (row :: rest) [⟨arguments, .ok outcome⟩] (some (.result e))

/-- A pass over accepted rows: the rows that it applied, in order, and what
stopped it. A row without its id counts towards the tally. -/
structure Swept (s : Statement) (rows : List Param) (done last : List Executed)
    (pass : Pass) : Prop where
  executed : pass.executed = done.length
  applied : List.Forall₂ (Applied s) (rows.take done.length) done
  stopped : Stopped s (rows.drop done.length) last pass.failure
  tally : pass.tally = .ofOutcomes s.kind (outcomes (done ++ last))

/-- The tally is what `executeRows` has counted before, with what these
executions add. -/
theorem executeRows_leaves (backend : Backend σ) (s : Statement)
    (statement : Prepared) (index : Nat) (tally : Tally) (rows : List Param) :
    Session.Leaves backend (executeRows backend s statement index tally rows)
        fun pass trail =>
      ∃ done last, trail = (done ++ last).map (Executed.event statement) ∧
        pass.executed = index + done.length ∧
        List.Forall₂ (Applied s) (rows.take done.length) done ∧
        Stopped s (rows.drop done.length) last pass.failure ∧
        (last = [] → ∀ e, pass.failure ≠ some (.driver e)) ∧
        pass.tally = tally.append
          (.ofOutcomes s.kind (outcomes (done ++ last))) := by
  have hnone (tally : Tally) :
      tally = tally.append (.ofOutcomes s.kind (outcomes [])) := by
    rw [outcomes, List.filterMap_nil, Tally.ofOutcomes_nil, Tally.append_empty]
  induction rows generalizing index tally with
  | nil =>
      exact .pure ⟨[], [], rfl, rfl, .nil, .finished, by simp, hnone tally⟩
  | cons row rest ih =>
      rw [executeRows]
      cases hbind : s.bindRow row with
      | error cause =>
          refine .pure ⟨[], [], rfl, rfl, .nil, .unbound hbind, ?_, hnone tally⟩
          rintro - e hfailure
          cases hfailure
          cases Statement.bindRow_error hbind
      | ok arguments =>
          apply (Session.print_leaves backend _).bind_silent
          intro _
          apply (Session.time_leaves backend).bind_silent
          intro start
          apply (Session.ask_leaves backend _).bind
          rintro (e | outcome) _ rfl
          · exact .pure ⟨[], [⟨arguments, .error e⟩], rfl, rfl, .nil,
              .refused hbind, by simp, hnone tally⟩
          · apply (Session.record_leaves backend s.id start).bind_silent
            intro _
            cases hid : insertId s outcome with
            | error e =>
                exact .pure ⟨[], [⟨arguments, .ok outcome⟩], rfl, rfl, .nil,
                  .withoutId hbind hid, by simp, push_of_missing tally hid⟩
            | ok id =>
                apply (ih (index + 1) (tally.push id outcome.rows)).mono
                rintro pass _ ⟨done, last, rfl, hexecuted, happlied, hstopped,
                  hdriver, htally⟩
                refine ⟨⟨arguments, .ok outcome⟩ :: done, last, rfl, ?_,
                  .cons (.intro hbind hid) happlied, hstopped, hdriver, ?_⟩
                · rw [hexecuted, List.length_cons]
                  omega
                · rw [htally, push_of_insertId tally hid, Tally.append_assoc,
                    ← Tally.ofOutcomes_append]
                  rfl

/-- One pass: it is refused before anything is asked, or cannot prepare, or
sweeps the rows between preparing a statement and giving it back. Once prepared,
it stops at a driver's fault only where an execution answered with it. -/
inductive Passed (s : Statement) (rows : List Param) :
    List Event → Pass → Prop where
  | rejected {index : Nat} {cause : Cause}
      (checked : check s rows = .error (index, cause)) :
      Passed s rows [] ⟨index, .empty, some cause⟩
  | unprepared {statement : Prepared} {e : DriverError}
      (checked : check s rows = .ok ()) :
      Passed s rows [⟨.prepare statement, .error e⟩]
        ⟨0, .empty, some (.driver e)⟩
  | swept {statement : Prepared} {opening closing : List Event}
      {done last : List Executed} {pass : Pass}
      (checked : check s rows = .ok ())
      (prepares : Session.Prepares s.resolved opening (.ok statement))
      (sweep : Swept s rows done last pass)
      (driven : last = [] → ∀ e, pass.failure ≠ some (.driver e))
      (closes : Session.Releases statement closing) :
      Passed s rows (opening ++ (done ++ last).map (Executed.event statement) ++
        closing) pass

theorem pass_leaves (backend : Backend σ) (s : Statement) (rows : List Param) :
    Session.Leaves backend (pass backend s rows) fun pass trail =>
      Passed s rows trail pass := by
  rw [pass]
  cases hcheck : check s rows with
  | error refusal => exact .pure (.rejected hcheck)
  | ok _ =>
      apply (Session.prepare_leaves backend s.resolved).bind
      rintro (e | statement) opening hprepares
      · obtain ⟨statement, rfl⟩ := hprepares
        exact .pure (.unprepared hcheck)
      · apply (Session.print_leaves backend _).bind_silent
        intro _
        apply (executeRows_leaves backend s statement 0 .empty rows).bind
        rintro done _ ⟨applied, last, rfl, hexecuted, happlied, hstopped,
          hdriver, htally⟩
        apply (Session.releaseOrWarn_leaves backend statement _).bind
        intro _ closing hcloses
        have hswept : Swept s rows applied last done :=
          ⟨by simpa using hexecuted, happlied, hstopped,
            by simpa [Tally.empty_append] using htally⟩
        exact .pure
          (by simpa using Passed.swept hcheck hprepares hswept hdriver hcloses)

theorem executions_of_prepares {sql : String} {statement : Prepared}
    {opening : List Event} (h : Session.Prepares sql opening (.ok statement)) :
    executions opening = [] := by
  rcases h.2 with rfl | rfl
  · rfl
  · rfl

theorem executions_of_closes {statement : Prepared} {closing : List Event}
    (h : Session.Releases statement closing) : executions closing = [] := by
  rcases h with rfl | ⟨answer, rfl⟩
  · rfl
  · rfl

/-- A pass that is not refused sweeps the rows, going by its executions. -/
theorem Passed.swept_or_rejected {s : Statement} {rows : List Param}
    {trail : List Event} {pass : Pass} (h : Passed s rows trail pass) :
    (∃ index cause, check s rows = .error (index, cause) ∧ trail = [] ∧
      pass = ⟨index, .empty, some cause⟩) ∨
    check s rows = .ok () ∧
      ∃ done last, executions trail = done ++ last ∧
      Swept s rows done last pass := by
  cases h with
  | rejected checked => exact .inl ⟨_, _, checked, rfl, rfl⟩
  | unprepared checked =>
      refine .inr ⟨checked, [], [], rfl, rfl, .nil, .unprepared, ?_⟩
      exact (Tally.ofOutcomes_nil s.kind).symm
  | @swept statement opening closing done last pass checked prepares sweep _
      closes =>
      refine .inr ⟨checked, done, last, ?_, sweep⟩
      rw [executions_append, executions_append, executions_map_event,
        executions_of_prepares prepares, executions_of_closes closes,
        List.nil_append, List.append_nil]

/-- The rows that a pass has left are accepted again, so a second pass is not
refused. -/
theorem Swept.check_left {s : Statement} {rows : List Param}
    {done last : List Executed} {pass : Pass} (h : Swept s rows done last pass)
    (hcheck : check s rows = .ok ()) :
    check s (rows.drop done.length) = .ok () := by
  have happlied := h.applied
  cases rows with
  | nil => simpa using hcheck
  | cons row rest =>
      cases done with
      | nil => exact hcheck
      | cons first others =>
          rw [List.length_cons, List.take_succ_cons] at happlied
          cases happlied with
          | cons hrow _ =>
              cases hrow with
              | intro bound _ =>
                  exact check_drop _ (rowShape?_of_bindRow bound) hcheck

/-- Neither of two passes is refused: a refusal is no lost connection, and what
the first pass left is accepted again. -/
theorem Passed.swept_of_lost {s : Statement} {rows : List Param}
    {left right : List Event} {executed : Nat} {tally : Tally} {added : Pass}
    (first : Passed s rows
      left ⟨executed, tally, some (.driver .badConnection)⟩)
    (second : Passed s (rows.drop executed) right added) :
    check s rows = .ok () ∧ ∃ done last again final,
      executions left = done ++ last ∧ executions right = again ++ final ∧
      Swept s rows done last ⟨executed, tally, some (.driver .badConnection)⟩ ∧
      Swept s (rows.drop done.length) again final added := by
  obtain ⟨index, cause, hcheck, -, hpass⟩ | ⟨hcheck, done, last, hleft,
      hfirst⟩ :=
    first.swept_or_rejected
  · cases hpass
    cases (check_error hcheck).ofParameters
  · obtain rfl := hfirst.executed
    obtain ⟨index, cause, hrefused, -⟩ | ⟨-, again, final, hright, hsecond⟩ :=
      second.swept_or_rejected
    · rw [hfirst.check_left hcheck] at hrefused
      cases hrefused
    · exact ⟨hcheck, done, last, again, final, hleft, hright, hfirst, hsecond⟩

/-- A whole batch: one pass, or two if the first lost the connection. The second
pass starts at the row that the first one did not get done, and adds to its
tally only if it succeeds. -/
inductive Ran (s : Statement) (rows : List Param) :
    List Event → Except Failure Tally → Prop where
  | completed {trail : List Event} {executed : Nat} {tally : Tally}
      (only : Passed s rows trail ⟨executed, tally, none⟩) :
      Ran s rows trail (.ok tally)
  | failed {trail : List Event} {executed : Nat} {tally : Tally} {cause : Cause}
      (only : Passed s rows trail ⟨executed, tally, some cause⟩)
      (kept : cause ≠ .driver .badConnection) :
      Ran s rows trail (.error (.batch s.id executed tally (.plain cause)))
  | resumed {left right : List Event} {executed again : Nat}
      {tally added : Tally}
      (first : Passed s rows left ⟨executed, tally,
        some (.driver .badConnection)⟩)
      (second : Passed s (rows.drop executed) right ⟨again, added, none⟩) :
      Ran s rows (left ++ right) (.ok (tally.append added))
  | resumedFailed {left right : List Event} {executed again : Nat}
      {tally added : Tally} {cause : Cause}
      (first : Passed s rows
        left ⟨executed, tally, some (.driver .badConnection)⟩)
      (second : Passed s (rows.drop executed)
        right ⟨again, added, some cause⟩) :
      Ran s rows (left ++ right)
        (.error (.batch s.id (executed + again) tally (.plain cause)))

theorem execute_leaves (backend : Backend σ) (s : Statement)
    (rows : List Param) :
    Session.Leaves backend (execute backend s rows) fun result trail =>
      Ran s rows trail result := by
  rw [execute]
  apply (pass_leaves backend s rows).bind
  rintro ⟨executed, tally, failure⟩ left hfirst
  cases failure with
  | none => exact .pure (by simpa using Ran.completed hfirst)
  | some cause =>
      simp only
      split
      · next hlost =>
          obtain rfl : cause = .driver .badConnection := by simpa using hlost
          apply (Session.warn_leaves backend _).bind_silent
          intro _
          apply (pass_leaves backend s (rows.drop executed)).bind
          rintro ⟨again, added, failure⟩ right hsecond
          cases failure with
          | none => exact .pure (by simpa using Ran.resumed hfirst hsecond)
          | some cause =>
              exact .pure (by simpa using Ran.resumedFailed hfirst hsecond)
      · next hkept =>
          exact .pure (by simpa using Ran.failed hfirst (by simpa using hkept))

end Batch

end NamedSql
