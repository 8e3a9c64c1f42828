import NamedSql.Proofs.Batch.Order

/-!
What a batch reports against what the backend answered. A batch that succeeds
reports all outcomes of its executions. One that fails reports those of its
first pass, and the row of the whole list at which it stopped, whichever pass
that was.
-/

namespace NamedSql

namespace Backend

/-- The events before the connection was lost; all of them if it never was. -/
def firstPass (events : List Event) : List Event :=
  events.takeWhile fun event => !event.losesConnection

theorem firstPass_append {left : List Event} (right : List Event)
    (h : ∀ event ∈ left, event.losesConnection = false) :
    firstPass (left ++ right) = left ++ firstPass right :=
  List.takeWhile_append_of_pos fun event hmem => by
    rw [h event hmem, Bool.not_false]

end Backend

namespace Batch

open Backend

variable {σ : Type}

theorem opening_keeps_connection {sql : String} {statement : Prepared}
    {opening : List Event} (h : Session.Prepares sql opening (.ok statement)) :
    ∀ event ∈ opening, event.losesConnection = false := by
  rcases h.2 with rfl | rfl
  · simp
  · simp [Event.losesConnection]

theorem applied_keeps_connection {s : Statement} {rows : List Param}
    {done : List Executed} (statement : Prepared)
    (h : List.Forall₂ (Applied s) rows done) :
    ∀ event ∈ done.map (Executed.event statement),
      event.losesConnection = false := by
  intro event hmem
  obtain ⟨executed, hexecuted, rfl⟩ := List.mem_map.mp hmem
  have hsucceeded := succeeded_of_applied h executed hexecuted
  obtain ⟨arguments, answer⟩ := executed
  cases answer with
  | error e => cases hsucceeded
  | ok outcome => rfl

theorem closing_keeps_connection {statement : Prepared} {closing : List Event}
    (h : Session.Releases statement closing) :
    ∀ event ∈ closing, event.losesConnection = false := by
  rcases h with rfl | ⟨answer, rfl⟩
  · simp
  · simp [Event.losesConnection]

theorem firstPass_closing {statement : Prepared} {closing : List Event}
    (h : Session.Releases statement closing) :
    executions (firstPass (closing ++ [])) = [] := by
  have hnothing : executions (firstPass []) = [] := rfl
  rw [firstPass_append [] (closing_keeps_connection h), executions_append,
    executions_of_closes h, List.nil_append, hnothing]

/-- An execution that keeps the connection counts, and giving the statement back
adds nothing. -/
theorem firstPass_last {statement : Prepared} {executed : Executed}
    {closing : List Event}
    (kept : (executed.event statement).losesConnection = false)
    (closes : Session.Releases statement closing) :
    executions (firstPass
        ([executed].map (Executed.event statement) ++ (closing ++ []))) =
      [executed] := by
  have hkept : ∀ event ∈ [executed].map (Executed.event statement),
      event.losesConnection = false := by simpa using kept
  rw [firstPass_append _ hkept, executions_append, firstPass_closing closes,
    executions_map_event, List.append_nil]

/-- The execution at which a pass stopped counts, unless it failed. -/
theorem Stopped.outcomes_firstPass {s : Statement} {rows : List Param}
    {last : List Executed} {failure : Option Cause} {statement : Prepared}
    {closing right : List Event} (h : Stopped s rows last failure)
    (driven : last = [] → ∀ e, failure ≠ some (.driver e))
    (closes : Session.Releases statement closing)
    (hright : failure = some (.driver .badConnection) ∨ right = []) :
    outcomes (executions
        (firstPass
            (last.map (Executed.event statement) ++ (closing ++ right)))) =
      outcomes last := by
  cases h with
  | finished =>
      obtain rfl := hright.resolve_left (by simp)
      rw [List.map_nil, List.nil_append, firstPass_closing closes]
  | @unprepared _ e => exact absurd rfl (driven rfl e)
  | @unbound _ _ cause failed =>
      obtain rfl := hright.resolve_left (driven rfl _)
      rw [List.map_nil, List.nil_append, firstPass_closing closes]
  | @refused row rest arguments e bound =>
      rcases e with _ | reason
      · rfl
      · obtain rfl := hright.resolve_left (by simp)
        rw [firstPass_last rfl closes]
  | @withoutId row rest arguments outcome e bound missing =>
      obtain rfl := hright.resolve_left (by simp)
      rw [firstPass_last rfl closes]

/-- The tally of a pass is that of the events before the connection was lost,
whatever comes behind the pass if it lost it. -/
theorem Passed.tally_eq {s : Statement} {rows : List Param}
    {left right : List Event} {pass : Pass} (h : Passed s rows left pass)
    (hright : pass.failure = some (.driver .badConnection) ∨ right = []) :
    pass.tally = .ofOutcomes s.kind
      (outcomes (executions (firstPass (left ++ right)))) := by
  cases h with
  | rejected checked =>
      rcases hright with hlost | rfl
      · cases hlost
        cases (check_error checked).ofParameters
      · exact (Tally.ofOutcomes_nil s.kind).symm
  | @unprepared statement e checked =>
      rcases hright with hlost | rfl
      · cases hlost
        exact (Tally.ofOutcomes_nil s.kind).symm
      · cases e <;> exact (Tally.ofOutcomes_nil s.kind).symm
  | @swept statement opening closing done last pass checked prepares sweep
      driven closes =>
      have hkept := opening_keeps_connection prepares
      have hdone := applied_keeps_connection statement sweep.applied
      rw [sweep.tally, List.map_append, List.append_assoc, List.append_assoc,
        List.append_assoc, firstPass_append _ hkept, firstPass_append _ hdone,
        executions_append, executions_append, executions_of_prepares prepares,
        executions_map_event, List.nil_append, outcomes_append, outcomes_append,
        sweep.stopped.outcomes_firstPass driven closes hright]

theorem length_outcomes_of_applied {s : Statement} {rows : List Param}
    {done : List Executed} (h : List.Forall₂ (Applied s) rows done) :
    (outcomes done).length = done.length := by
  induction h with
  | nil => rfl
  | cons hrow _ ih =>
      cases hrow with
      | intro _ _ => simpa [outcomes, Executed.outcome?] using ih

/-- Every row of an insert that is applied has its id. -/
theorem insertIds_of_applied {s : Statement} {rows : List Param}
    {done : List Executed} (hinsert : s.kind = .insert)
    (h : List.Forall₂ (Applied s) rows done) :
    ((outcomes done).filterMap Outcome.insertId).map some =
      (outcomes done).map Outcome.insertId := by
  induction h with
  | nil => rfl
  | cons hrow _ ih =>
      cases hrow with
      | @intro _ outcome _ _ identified =>
          obtain ⟨id, hid⟩ :=
            Option.isSome_iff_exists.mp
              ((insertId_eq_ok_iff.mp identified).2 hinsert)
          simpa [outcomes, Executed.outcome?, hid] using ih

theorem filter_succeeded_of_applied {s : Statement} {rows : List Param}
    {done : List Executed} (h : List.Forall₂ (Applied s) rows done) :
    done.filter Executed.succeeded = done :=
  List.filter_eq_self.mpr (succeeded_of_applied h)

/-- What lost the connection did not succeed. -/
theorem Stopped.filter_succeeded_of_lost {s : Statement} {rows : List Param}
    {last : List Executed}
    (h : Stopped s rows last (some (.driver .badConnection))) :
    last.filter Executed.succeeded = [] := by
  rcases h.of_lost with rfl | ⟨arguments, rfl⟩
  · rfl
  · rfl

/-- A pass that lost the connection has as many outcomes as rows that it
applied. -/
theorem Swept.length_outcomes_of_lost {s : Statement} {rows : List Param}
    {done last : List Executed} {executed : Nat} {tally : Tally}
    (h : Swept s rows done last
      ⟨executed, tally, some (.driver .badConnection)⟩) :
    (outcomes (done ++ last)).length = done.length := by
  rw [← outcomes_filter_succeeded, List.filter_append,
    h.stopped.filter_succeeded_of_lost, List.append_nil,
    outcomes_filter_succeeded, length_outcomes_of_applied h.applied]

theorem Ran.check_ok {s : Statement} {rows : List Param} {trail : List Event}
    {tally : Tally} (h : Ran s rows trail (.ok tally)) :
    check s rows = .ok () := by
  cases h with
  | completed only =>
      obtain ⟨_, _, _, _, hpass⟩ | ⟨hcheck, _⟩ := only.swept_or_rejected
      · cases hpass
      · exact hcheck
  | resumed first second => exact (first.swept_of_lost second).1

/-- A batch that succeeds has applied every row, and its tally is that of all
its executions. -/
theorem Ran.applied {s : Statement} {rows : List Param} {trail : List Event}
    {tally : Tally} (h : Ran s rows trail (.ok tally)) :
    List.Forall₂ (Applied s) rows
        ((executions trail).filter Executed.succeeded) ∧
      tally = .ofOutcomes s.kind (outcomes (executions trail)) := by
  cases h with
  | completed only =>
      obtain ⟨_, _, _, _, hpass⟩ | ⟨_, done, last, htrail, hswept⟩ :=
        only.swept_or_rejected
      · cases hpass
      · obtain ⟨rfl, hlength⟩ := hswept.length_done_of_finished
        have happlied := hswept.applied
        rw [hlength, List.take_length] at happlied
        rw [htrail, List.append_nil, filter_succeeded_of_applied happlied]
        exact ⟨happlied, by simpa using hswept.tally⟩
  | @resumed left right executed count first_tally added first second =>
      obtain ⟨-, done, last, again, final, hleft, hright, hfirst, hsecond⟩ :=
        first.swept_of_lost second
      obtain ⟨rfl, hlength⟩ := hsecond.length_done_of_finished
      have happlied := hsecond.applied
      rw [hlength, List.take_length] at happlied
      have htally : first_tally =
          .ofOutcomes s.kind (outcomes (done ++ last)) := hfirst.tally
      have hadded : added = .ofOutcomes s.kind (outcomes (again ++ [])) :=
        hsecond.tally
      refine ⟨?_, ?_⟩
      · rw [executions_append, hleft, hright, List.filter_append,
          List.filter_append, List.append_nil,
          filter_succeeded_of_applied hfirst.applied,
          filter_succeeded_of_applied happlied,
          hfirst.stopped.filter_succeeded_of_lost, List.append_nil]
        have hall : List.Forall₂ (Applied s)
            (rows.take done.length ++ rows.drop done.length) (done ++ again) :=
          List.rel_append hfirst.applied happlied
        rwa [List.take_append_drop] at hall
      · rw [htally, hadded, ← Tally.ofOutcomes_append, ← outcomes_append,
          executions_append, hleft, hright]

/-- What a batch that succeeds reports: each row was applied in its turn, the
rows touched are those of all the executions, and each row of an insert has its
id. -/
structure Complete (s : Statement) (rows : List Param) (done : List Executed)
    (tally : Tally) : Prop where
  applied : List.Forall₂ (Applied s) rows (done.filter Executed.succeeded)
  touched : tally.rows = ((outcomes done).map Outcome.rows).sum
  identified : s.kind = .insert →
    tally.insertIds.map some = (outcomes done).map Outcome.insertId ∧
      tally.insertIds.length = rows.length
  unidentified : s.kind ≠ .insert → tally.insertIds = []

theorem Ran.complete {s : Statement} {rows : List Param} {trail : List Event}
    {tally : Tally} (h : Ran s rows trail (.ok tally)) :
    Complete s rows (executions trail) tally := by
  obtain ⟨happlied, rfl⟩ := h.applied
  refine ⟨happlied, rfl, ?_, ?_⟩
  · intro hinsert
    have hids := insertIds_of_applied hinsert happlied
    rw [outcomes_filter_succeeded] at hids
    have hlength := congrArg List.length hids
    rw [List.length_map, List.length_map, ← outcomes_filter_succeeded,
      length_outcomes_of_applied happlied, ← happlied.length_eq,
      outcomes_filter_succeeded] at hlength
    simp only [Tally.ofOutcomes, if_pos hinsert]
    exact ⟨hids, hlength⟩
  · intro hother
    exact if_neg hother

/-- Where a batch stops and why: before anything is asked at a row that is
refused, or else at the row behind those that it has applied. -/
inductive StopsAt (s : Statement) (rows : List Param) (trail : List Event) :
    Nat → Cause → Prop where
  | rejected {row : Nat} {cause : Cause} (refused : Refused s rows row cause)
      (unasked : trail = []) : StopsAt s rows trail row cause
  | unprepared {row : Nat} {statement : Prepared} {e : DriverError}
      (asked : trail.getLast? = some ⟨.prepare statement, .error e⟩)
      (applied : (outcomes (executions trail)).length = row)
      (within : row < rows.length ∨ rows = []) :
      StopsAt s rows trail row (.driver e)
  | unbound {row : Nat} {p : Param} {cause : Cause}
      (at_row : rows[row]? = some p)
      (applied : (outcomes (executions trail)).length = row)
      (failed : s.bindRow p = .error cause) : StopsAt s rows trail row cause
  | refused {row : Nat} {p : Param} {arguments : List Value} {e : DriverError}
      (at_row : rows[row]? = some p)
      (applied : (outcomes (executions trail)).length = row)
      (bound : s.bindRow p = .ok arguments)
      (asked : (executions trail).getLast? = some ⟨arguments, .error e⟩) :
      StopsAt s rows trail row (.driver e)
  | withoutId {row : Nat} {p : Param} {arguments : List Value}
      {outcome : Outcome} {e : ResultError} (at_row : rows[row]? = some p)
      (applied : (outcomes (executions trail)).length = row + 1)
      (bound : s.bindRow p = .ok arguments)
      (asked : (executions trail).getLast? = some ⟨arguments, .ok outcome⟩)
      (missing : insertId s outcome = .error e) :
      StopsAt s rows trail row (.result e)

/-- A pass over the rows from `start` on, behind a trail that has applied the
rows before. -/
theorem Passed.stopsAt {s : Statement} {rows : List Param}
    {start executed : Nat} {left right : List Event} {tally : Tally}
    {cause : Cause}
    (h : Passed s (rows.drop start) right ⟨executed, tally, some cause⟩)
    (happlied : (outcomes (executions left)).length = start)
    (hwithin : start < rows.length ∨ rows = [])
    (hfresh : left = [] ∨ check s (rows.drop start) = .ok ()) :
    StopsAt s rows (left ++ right) (start + executed) cause := by
  cases h with
  | rejected checked =>
      obtain rfl := hfresh.resolve_right (by rw [checked]; simp)
      obtain rfl : 0 = start := happlied
      rw [List.drop_zero] at checked
      exact .rejected (by simpa using check_error checked) rfl
  | unprepared checked =>
      refine .unprepared (by rw [List.getLast?_append]; rfl) ?_ hwithin
      rw [executions_append, outcomes_append, List.length_append, happlied]
      rfl
  | @swept statement opening closing done last _ checked prepares sweep driven
      closes =>
      obtain rfl : executed = done.length := sweep.executed
      have hexecutions : executions (left ++ (opening ++ (done ++ last).map
          (Executed.event statement) ++ closing)) =
            executions left ++ done ++ last := by
        rw [executions_append, executions_append, executions_append,
          executions_map_event, executions_of_prepares prepares,
          executions_of_closes closes, List.nil_append, List.append_nil,
          List.append_assoc]
      generalize left ++
        (opening ++ (done ++ last).map (Executed.event statement) ++ closing) =
        trail at hexecutions ⊢
      have hcount : (outcomes (executions trail)).length =
          start + done.length + (outcomes last).length := by
        rw [hexecutions, outcomes_append, outcomes_append, List.length_append,
          List.length_append, happlied,
          length_outcomes_of_applied sweep.applied]
      have hstopped := sweep.stopped
      rw [List.drop_drop] at hstopped
      generalize hstop : rows.drop (start + done.length) = rest at hstopped
      generalize hfailure : some cause = failure at hstopped
      have hrow {row : Param} {others : List Param}
          (hrest : rest = row :: others) :
          rows[start + done.length]? = some row := by
        rw [← List.head?_drop, hstop, hrest, List.head?_cons]
      cases hstopped with
      | finished => cases hfailure
      | unprepared => exact absurd hfailure (driven rfl _)
      | unbound failed =>
          cases hfailure
          exact .unbound (hrow rfl) hcount failed
      | refused bound =>
          cases hfailure
          exact .refused (hrow rfl) hcount bound
            (by rw [hexecutions, List.getLast?_concat])
      | withoutId bound missing =>
          cases hfailure
          exact .withoutId (hrow rfl) hcount bound
            (by rw [hexecutions, List.getLast?_concat]) missing

/-- A pass that lost the connection left a row, unless there was none from the
start. -/
theorem Passed.within_of_lost {s : Statement} {rows : List Param}
    {trail : List Event} {executed : Nat} {tally : Tally}
    (h : Passed s rows trail ⟨executed, tally, some (.driver .badConnection)⟩) :
    executed < rows.length ∨ rows = [] := by
  generalize hpass :
      (⟨executed, tally, some (.driver .badConnection)⟩ : Pass) = pass at h
  cases h with
  | rejected checked =>
      cases hpass
      cases (check_error checked).ofParameters
  | unprepared checked =>
      cases hpass
      rcases rows with _ | ⟨row, rest⟩
      · exact .inr rfl
      · exact .inl (by simp)
  | @swept statement opening closing done last _ checked prepares sweep driven
      closes =>
      subst hpass
      obtain rfl : executed = done.length := sweep.executed
      by_contra! hnone
      have hstopped := sweep.stopped
      rw [List.drop_eq_nil_iff.mpr hnone.1] at hstopped
      cases hstopped with
      | unprepared => exact driven rfl _ rfl

/-- What a batch that fails reports. -/
structure Incomplete (s : Statement) (rows : List Param) (trail : List Event)
    (row : Nat) (applied : Tally) (cause : Cause) : Prop where
  stops : StopsAt s rows trail row cause
  /-- Of the executions only those before the connection was lost are
  reported. -/
  applied :
      applied = .ofOutcomes s.kind (outcomes (executions (firstPass trail)))

theorem Ran.incomplete {s : Statement} {rows : List Param} {trail : List Event}
    {failure : Failure} (h : Ran s rows trail (.error failure)) :
    ∃ row applied cause,
      failure = .batch s.id row applied (.plain cause) ∧
        Incomplete s rows trail row applied cause := by
  cases h with
  | @failed trail executed tally cause only kept =>
      refine ⟨executed, tally, cause, rfl, ?_, ?_⟩
      · have hwithin : 0 < rows.length ∨ rows = [] := by
          rcases rows with _ | ⟨row, rest⟩
          · exact .inr rfl
          · exact .inl (by simp)
        have honly :
            Passed s (rows.drop 0) trail ⟨executed, tally, some cause⟩ := only
        have hnothing : (outcomes (executions [])).length = 0 := rfl
        simpa using honly.stopsAt hnothing hwithin (.inl rfl)
      · have htally := only.tally_eq (.inr rfl)
        rwa [List.append_nil] at htally
  | @resumedFailed left right executed again tally added cause first second =>
      obtain ⟨hcheck, done, last, _, _, hleft, -, hfirst, -⟩ :=
        first.swept_of_lost second
      obtain rfl : executed = done.length := hfirst.executed
      refine ⟨_, tally, cause, rfl, ?_, first.tally_eq (.inl rfl)⟩
      refine second.stopsAt ?_ first.within_of_lost
        (.inr (hfirst.check_left hcheck))
      rw [hleft, hfirst.length_outcomes_of_lost]

/-- Whatever the backend answers, a batch reports what was executed. If it
succeeds, these are the outcomes of all its rows; if it fails, the row at which
it stopped, and the outcomes before it lost the connection. -/
theorem execute_reports_outcomes (backend : Backend σ) (s : Statement)
    (rows : List Param) (before : Session σ) :
    let after := ((execute backend s rows).run before).2
    ∃ trail, after.events = before.events ++ trail ∧
      match ((execute backend s rows).run before).1 with
      | .ok tally => Complete s rows (executions trail) tally
      | .error failure => ∃ row applied cause,
          failure = .batch s.id row applied (.plain cause) ∧
            Incomplete s rows trail row applied cause := by
  intro after
  obtain ⟨trail, hextends, hran⟩ := execute_leaves backend s rows before
  refine ⟨trail, hextends.events, ?_⟩
  generalize ((execute backend s rows).run before).1 = result at hran
  cases result with
  | ok tally => exact hran.complete
  | error failure => exact hran.incomplete

end Batch

end NamedSql
