import NamedSql.Bulk
import NamedSql.Proofs.Batch.Acceptance
import NamedSql.Proofs.Execute.Planning

/-!
Rows from both ways in: handed over as one list, or collected in a bulk. A list
settles no clause, so both ways lead to the same plan wherever the list is taken
for rows, and with it to the same calls. What is told apart is a first row that
is none: a list that opens with one is no list of rows, while a bulk is prepared
before its first row fails to bind.
-/

namespace NamedSql

variable {σ : Type}

/-- The first parameter, seen through one optional, is the list. -/
def OpensWithList (parameters items : List Param) : Prop :=
  ∃ first others, parameters = first :: others ∧
    first.present = .ok (.sequence items)

theorem opensWithList_cons_iff {first : Param} {others items : List Param} :
    OpensWithList (first :: others) items ↔
      first.present = .ok (.sequence items) := by
  simp [OpensWithList]

/-- A list supplies no names, like no parameters at all. -/
theorem OpensWithList.settled_eq {parameters items : List Param}
    (h : OpensWithList parameters items) (dialect : Dialect) (s : Statement) :
    s.settled dialect parameters = s.settled dialect [] := by
  obtain ⟨first, others, rfl, hpresent⟩ := h
  have hnames : presenceOf (first :: others) = .ok none := by
    rw [presenceOf, hpresent]
    rfl
  rw [Statement.settled, Statement.settled, hnames]
  rfl

namespace Arrangement

variable {s : Statement} {parameters items rows : List Param}

theorem ofList_eq_rows_iff :
    ofList s parameters items .execute = .ok (.rows rows) ↔
    items = rows ∧ s.hasList = false ∧
      (rows.head?.bind Param.rowShape?).isSome := by
  constructor
  · intro h
    rw [ofList.eq_def] at h
    split at h
    · cases h
    · next hlist =>
        cases hshape : items.head?.bind Param.rowShape? with
        | none =>
            rw [hshape] at h
            cases h
        | some kind =>
            obtain rfl : items = rows := by simpa [hshape] using h
            exact ⟨rfl, by simpa using hlist, by rw [hshape]; rfl⟩
  · rintro ⟨rfl, hlist, hfirst⟩
    obtain ⟨kind, hkind⟩ := Option.isSome_iff_exists.mp hfirst
    simp [ofList, hlist, hkind]

/-- Only a list is taken for rows: one that opens with a row, where no column
takes a list. -/
theorem classify_eq_rows_iff :
    classify s parameters .execute = .ok (.rows rows) ↔
    OpensWithList parameters rows ∧ s.hasList = false ∧
      (rows.head?.bind Param.rowShape?).isSome := by
  cases parameters with
  | nil => simp [classify, OpensWithList]
  | cons first others =>
      rw [classify, opensWithList_cons_iff]
      cases hpresent : first.present with
      | error e => simp [bind, Except.bind]
      | ok p =>
          cases p with
          | sequence items => simp [bind, Except.bind, ofList_eq_rows_iff]
          | mapping entries =>
              cases htexts : Param.entriesByName entries <;>
                simp [bind, Except.bind, htexts]
          | scalar | record | optional | erased => simp [bind, Except.bind]

end Arrangement

namespace Plan

variable {dialect : Dialect} {s settled : Statement}
  {parameters rows : List Param}

/-- When an execution runs as a batch of rows. -/
theorem execution_eq_batch_iff :
    execution dialect s parameters = .ok (.batch settled rows) ↔
      s.kind.isWrite = true ∧ s.settled dialect [] = .ok settled ∧
        OpensWithList parameters rows ∧ settled.hasList = false ∧
        (rows.head?.bind Param.rowShape?).isSome := by
  rw [execution_eq_ok_iff]
  constructor
  · rintro ⟨hwrite, found, arrangement, hsettled, harranged, hplan⟩
    obtain ⟨_, rfl, hbatch⟩ | ⟨_, _, hbatch⟩ := bindOrBatch_eq_ok_iff.mp hplan
    · cases hbatch
      obtain ⟨hlist, hrows⟩ := Arrangement.classify_eq_rows_iff.mp harranged
      rw [hlist.settled_eq] at hsettled
      exact ⟨hwrite, hsettled, hlist, hrows⟩
    · cases hbatch
  · rintro ⟨hwrite, hsettled, hlist, hrows⟩
    rw [← hlist.settled_eq] at hsettled
    exact ⟨hwrite, settled, .rows rows, hsettled,
      Arrangement.classify_eq_rows_iff.mpr ⟨hlist, hrows⟩, rfl⟩

/-- Wherever a list is taken for rows, it is planned like collected rows. -/
theorem execution_eq_rows (hlist : OpensWithList parameters rows)
    (hfirst : (rows.head?.bind Param.rowShape?).isSome)
    (hsingle : ∀ settled, s.settled dialect [] = .ok settled →
      settled.hasList = false) :
    execution dialect s parameters = Plan.rows dialect s rows := by
  -- both ways settle by no names, so only the arrangement of the list can tell
  -- them apart
  rw [execution, Plan.rows, hlist.settled_eq]
  cases hwrite : s.kind.isWrite with
  | false => rfl
  | true =>
      cases hsettled : s.settled dialect [] with
      | error cause => rfl
      | ok settled =>
          have harranged := Arrangement.classify_eq_rows_iff.mpr
            ⟨hlist, hsingle settled hsettled, hfirst⟩
          simp only [bind, Except.bind, harranged]
          rfl

end Plan

/-- Running a batch of rows is the batch, with its failures named. -/
theorem Session.run_batch_leaves (backend : Backend σ) (s settled : Statement)
    (rows : List Param) :
    Leaves backend (run backend s (.ok (.batch settled rows)))
        fun result trail =>
      ∃ outcome, Batch.Ran settled rows trail outcome ∧
        result = outcome.mapError (Failure.inStatement s.id) := by
  apply (Batch.execute_leaves backend settled rows).bind
  intro outcome left hran
  exact .pure ⟨outcome, by simpa using hran, rfl⟩

namespace Bulk

variable {dialect : Dialect} {s : Statement} {bulk : Bulk} {rows : List Param}

/-- A bulk that has rows runs them; success empties it, and it keeps them
otherwise. -/
theorem execute_run (backend : Backend σ) (dialect : Dialect) (bulk : Bulk)
    (hrows : bulk.rows ≠ []) (before : Session σ) :
    (bulk.execute backend dialect).run before =
      let done :=
        (Session.executeRows backend dialect bulk.statement bulk.rows).run
          before
      ((done.1, match done.1 with
        | .ok _ => bulk.clear
        | .error _ => bulk), done.2) := by
  have hsome : bulk.isEmpty = false := by simpa [isEmpty] using hrows
  rw [execute, hsome]
  simp only [Bool.false_eq_true, if_false, StateT.run_bind]
  rcases (Session.executeRows backend dialect bulk.statement bulk.rows).run
      before with
    ⟨failure | tally, after⟩
  · rfl
  · rfl

/-- Collecting rows and executing them does what executing the list of them
does: the same calls, and whatever else a session keeps, with the same result.
Afterwards the bulk is empty if that is a success, and has its rows
otherwise. -/
theorem execute_eq_execute_list (backend : Backend σ) (dialect : Dialect)
    (hbulk : ofStatement s = .ok bulk)
    (hfirst : (rows.head?.bind Param.rowShape?).isSome)
    (hsingle : ∀ settled, s.settled dialect [] = .ok settled →
      settled.hasList = false) (before : Session σ) :
    let collected :=
      ((rows.foldl Bulk.add bulk).execute backend dialect).run before
    let listed :=
      (Session.execute backend dialect s [.sequence rows]).run before
    collected.2 = listed.2 ∧ collected.1.1 = listed.1 ∧
      (collected.1.2.isEmpty = true ↔ ∃ tally, collected.1.1 = .ok tally) ∧
      ∀ failure, collected.1.1 = .error failure →
        collected.1.2.rows = rows := by
  intro collected listed
  obtain ⟨-, rfl⟩ := ofStatement_eq_ok_iff.mp hbulk
  have hne : rows ≠ [] := by
    rintro rfl
    cases hfirst
  have hplan :
      Plan.execution dialect s [.sequence rows] = Plan.rows dialect s rows :=
    Plan.execution_eq_rows ⟨_, _, rfl, rfl⟩ hfirst hsingle
  have hlisted :
      (Session.executeRows backend dialect s rows).run before = listed := by
    rw [Session.executeRows, ← hplan]
    rfl
  have hcollected : collected = ((listed.1, match listed.1 with
      | .ok _ => ⟨s, []⟩
      | .error _ => ⟨s, rows⟩), listed.2) := by
    rw [← hlisted]
    simp only [collected, foldl_add, List.nil_append]
    exact execute_run backend dialect ⟨s, rows⟩ hne before
  rw [hcollected]
  cases listed.1 with
  | ok tally => simp [isEmpty]
  | error failure => simp [isEmpty, hne]

/-- A clause that is dropped would take a list, and the connection is lost at
the second row. -/
theorem execute_eq_execute_list_behind_dropped_clause :
    let s : Statement :=
      .raw "setA" .update ("UPDATE t SET a = :a" ++ clauseToken 1)
        [⟨clauseToken 1, "ids", " WHERE id IN (:ids[])", .present⟩]
    let rows : List Param := [.optional (some (.sequence [.scalar (.int 1)])),
      .sequence [.scalar .null]]
    let script : Backend.Script :=
      ⟨[], [⟨.exec, 2, .badConnection⟩], [], false, 1⟩
    let before : Session Backend.Scripted := .start script.start ⟨true, none⟩
    let collected :=
      ((rows.foldl Bulk.add ⟨s, []⟩).execute script.backend .question).run
        before
    let listed :=
      (Session.execute script.backend .question s [.sequence rows]).run before
    (∀ settled, s.settled .question [] = .ok settled →
      settled.hasList = false) ∧
      collected.2 = listed.2 ∧ collected.1.1 = listed.1 := by
  intro s rows script before collected listed
  let settled : Statement := { s with
    text := "UPDATE t SET a = :a", columns := [⟨"a", 18, .single⟩],
    held := "UPDATE t SET a = ?", resolved := "UPDATE t SET a = ?" }
  have hrefine : s.refine .question none = .ok settled :=
    Statement.normalize_eq_ok_iff.mpr ⟨"UPDATE t SET a = ".toList.map .plain ++
      [.slot ['a'] .single],
      Template.items_eq_ok_iff.mpr ⟨by decide, by decide⟩, by decide⟩
  have hsettled : s.settled .question [] = .ok settled := by
    rw [Statement.settled, if_pos (by decide)]
    exact congrArg (Except.mapError Cause.statement) hrefine
  have hsingle : ∀ settled, s.settled .question [] = .ok settled →
      settled.hasList = false := by
    intro settled h
    rw [hsettled] at h
    rw [← Except.ok.inj h]
    rfl
  have hbulk : ofStatement s = .ok ⟨s, []⟩ := rfl
  have hfirst : (rows.head?.bind Param.rowShape?).isSome := rfl
  obtain ⟨hsession, hresult, -⟩ :=
    execute_eq_execute_list script.backend .question hbulk hfirst hsingle before
  exact ⟨hsingle, hsession, hresult⟩

end Bulk

namespace Batch

open Backend

/-- Running a batch with a misfit fails and executes nothing. -/
theorem run_of_misfit (backend : Backend σ) {s settled : Statement}
    {rows : List Param} {row : Param} (hmem : row ∈ rows)
    (hmisfit : Misfit settled rows row) (before : Session σ) :
    let done := (Session.run backend s (.ok (.batch settled rows))).run before
    (∃ failure, done.1 = .error failure) ∧
      ∃ trail, done.2.events = before.events ++ trail ∧ executions trail = [] ∧
        ((rows.head?.bind Param.rowShape?).isSome → trail = []) := by
  intro done
  obtain ⟨trail, hextends, outcome, hran, hresult⟩ :=
    Session.run_batch_leaves backend s settled rows before
  obtain ⟨⟨failure, rfl⟩, hnothing, hunasked⟩ := hran.of_misfit hmem hmisfit
  exact ⟨⟨_, hresult⟩, trail, hextends.events, hnothing, hunasked⟩

/-- Rows among which there is a misfit are not run. As a list they fail before
the backend is asked for anything; collected they fail before anything is
executed, and before anything is prepared if the first of them is a row. -/
theorem misfit_fails_unexecuted (backend : Backend σ) {dialect : Dialect}
    {s settled : Statement} {rows : List Param} {row : Param}
    (hmem : row ∈ rows) (hmisfit : Misfit settled rows row)
    (before : Session σ) :
    (∀ parameters, Plan.execution dialect s parameters =
      .ok (.batch settled rows) →
      let done := (Session.execute backend dialect s parameters).run before
      (∃ failure, done.1 = .error failure) ∧ done.2.events = before.events) ∧
    (∀ bulk : Bulk, bulk.rows = rows →
      Plan.rows dialect bulk.statement rows = .ok (.batch settled rows) →
      let done := (bulk.execute backend dialect).run before
      (∃ failure, done.1.1 = .error failure) ∧
        ∃ trail, done.2.events = before.events ++ trail ∧
        executions trail = [] ∧
          ((rows.head?.bind Param.rowShape?).isSome → trail = [])) := by
  constructor
  · intro parameters hplan done
    obtain ⟨-, -, -, -, hfirst⟩ := Plan.execution_eq_batch_iff.mp hplan
    obtain ⟨hfails, trail, htrail, -, hunasked⟩ :=
      run_of_misfit backend (s := s) hmem hmisfit before
    rw [← hplan] at hfails htrail
    refine ⟨hfails, ?_⟩
    rw [hunasked hfirst, List.append_nil] at htrail
    exact htrail
  · rintro bulk rfl hplan done
    obtain ⟨hfails, hevents⟩ :=
      run_of_misfit backend (s := bulk.statement) hmem hmisfit before
    rw [← hplan] at hfails hevents
    have hdone :=
      Bulk.execute_run backend dialect bulk (List.ne_nil_of_mem hmem) before
    simp only [done, hdone]
    exact ⟨hfails, hevents⟩

/-- The second of three rows is no row, and the third one is too short. -/
theorem misfit_fails_unexecuted_behind_a_row :
    let s : Statement :=
      ⟨"setA", .update, "UPDATE t SET a = :a", [], [⟨"a", 18, .single⟩],
        "UPDATE t SET a = ?", "UPDATE t SET a = ?"⟩
    let rows : List Param :=
      [.sequence [.scalar (.int 1)], .optional none, .sequence []]
    let before : Session Nat := .start 4 ⟨false, none⟩
    let listed :=
      (Session.execute numbering .question s [.sequence rows]).run before
    let collected := (Bulk.execute numbering .question ⟨s, rows⟩).run before
    Misfit s rows (.optional none) ∧ Misfit s rows (.sequence []) ∧
      (∃ failure, listed.1 = .error failure) ∧ listed.2.events = [] ∧
      (∃ failure, collected.1.1 = .error failure) ∧
      collected.2.events = [] := by
  intro s rows before listed collected
  have hmem : Param.optional none ∈ rows := .tail _ (.head _)
  have hmisfit : Misfit s rows (.optional none) := .shapeless rfl
  obtain ⟨hlist, hbulk⟩ :=
    @misfit_fails_unexecuted Nat numbering .question s s rows _ hmem
      hmisfit before
  obtain ⟨hfails, hevents⟩ := hlist [.sequence rows] rfl
  obtain ⟨hfailsToo, trail, htrail, -, hunasked⟩ := hbulk ⟨s, rows⟩ rfl rfl
  obtain rfl := hunasked rfl
  exact ⟨hmisfit, .width (by decide), hfails, hevents, hfailsToo, htrail⟩

/-- A bulk whose only row is none: the statement is prepared before the row
fails to bind. -/
theorem bulk_of_scalar_prepares :
    let s : Statement :=
      ⟨"setA", .update, "UPDATE t SET a = :a", [], [⟨"a", 18, .single⟩],
        "UPDATE t SET a = ?", "UPDATE t SET a = ?"⟩
    let bulk := (Bulk.mk s []).add (.scalar (.int 5))
    let done := (bulk.execute numbering .question).run (.start 4 ⟨false, none⟩)
    Bulk.ofStatement s = .ok ⟨s, []⟩ ∧ Misfit s bulk.rows (.scalar (.int 5)) ∧
      done.1.1 =
        .error (.batch "setA" 0 .empty (.plain (.bind (.notScalar "scalar")))) ∧
      done.2.events.map Event.call =
        [.prepare ⟨0, s.resolved, false⟩,
          .closeStatement ⟨0, s.resolved, false⟩] := by
  intro s bulk done
  exact ⟨rfl, .shapeless rfl, by decide, by decide⟩

end Batch

end NamedSql
