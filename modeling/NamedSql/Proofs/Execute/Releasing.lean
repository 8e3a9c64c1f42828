import NamedSql.Backend.Scripted
import NamedSql.Proofs.Session.Keeping
import NamedSql.Script.Run

/-!
What a call of a mapper opens, it closes. A batch prepares a statement for each
of its passes and gives it back; a query hands its cursor, with the statement
that it may own, to a reader, who closes both. None of this depends on what the
backend answers: every rule below holds for every answer.
-/

namespace NamedSql

open Backend Session

variable {σ : Type} {backend : Backend σ} {inTransaction : Bool}
  {first ledger : Ledger}

namespace Batch

theorem executeRows_keeps (s : Statement) {statement : Prepared}
    (held : statement ∈ ledger.statements) (index : Nat) (tally : Tally)
    (rows : List Param) :
    Keeps backend inTransaction
      (executeRows backend s statement index tally rows) ledger fun _ last =>
        last = ledger := by
  induction rows generalizing index tally with
  | nil => exact .pure rfl
  | cons row rest ih =>
      rw [executeRows]
      cases s.bindRow row with
      | error cause => exact .pure rfl
      | ok arguments =>
          apply Keeps.bind_aside (print_aside _)
          intro _
          apply Keeps.bind_aside (time_aside backend)
          intro start
          apply (Keeps.ask (fun _ => .executedPrepared held) rfl fun _ =>
            rfl).bind
          rintro (e | outcome) _ rfl
          · exact .pure rfl
          · apply Keeps.bind_aside (record_aside backend _ _)
            intro _
            cases insertId s outcome with
            | error e => exact .pure rfl
            | ok id => exact ih (index + 1) (tally.push id outcome.rows)

theorem pass_keeps (backend : Backend σ) (inTransaction : Bool) (s : Statement)
    (rows : List Param) (ledger : Ledger) :
    Keeps backend inTransaction (pass backend s rows) ledger fun _ last =>
      Returned inTransaction ledger last := by
  refine .of_sound fun hsound => ?_
  rw [pass]
  cases check s rows with
  | error refusal => exact .pure (.refl inTransaction ledger)
  | ok _ =>
      apply (prepare_keeps backend inTransaction s.resolved ledger).bind
      rintro (e | statement) middle hprepared
      · exact .pure hprepared
      · apply Keeps.bind_aside (print_aside _)
        intro _
        apply (executeRows_keeps s hprepared.held 0 .empty rows).bind
        rintro done _ rfl
        apply (releaseOrWarn_keeps _ hprepared hsound).bind
        intro _ last hreturned
        exact .pure hreturned

/-- The second pass, if there is one, starts with what the first has given
back. -/
theorem execute_keeps (backend : Backend σ) (inTransaction : Bool)
    (s : Statement) (rows : List Param) (ledger : Ledger) :
    Keeps backend inTransaction (execute backend s rows) ledger fun _ last =>
      Returned inTransaction ledger last := by
  rw [execute]
  apply (pass_keeps backend inTransaction s rows ledger).bind
  rintro ⟨executed, tally, failure⟩ middle hfirst
  cases failure with
  | none => exact .pure hfirst
  | some cause =>
      simp only
      split
      · apply Keeps.bind_aside (warn_aside _)
        intro _
        apply (pass_keeps backend inTransaction s (rows.drop executed)
          middle).bind
        rintro ⟨again, added, failure⟩ last hsecond
        cases failure with
        | none => exact .pure (hfirst.trans hsecond)
        | some cause => exact .pure (hfirst.trans hsecond)
      · exact .pure hfirst

end Batch

namespace Session

theorem exec_keeps (backend : Backend σ) (inTransaction : Bool) (sql : String)
    (arguments : List Value) (ledger : Ledger) :
    Keeps backend inTransaction (exec backend sql arguments) ledger
      fun _ last => last = ledger :=
  .bind_aside inTransaction_aside fun _ =>
    .ask (fun _ => .executed) rfl fun _ => rfl

theorem carryOut_keeps (backend : Backend σ) (inTransaction : Bool)
    (plan : Plan) (ledger : Ledger) :
    Keeps backend inTransaction (carryOut backend plan) ledger fun _ last =>
      Returned inTransaction ledger last := by
  cases plan with
  | batch s rows =>
      exact Batch.execute_keeps backend inTransaction s rows ledger
  | single s binding =>
      apply Keeps.bind_aside (print_aside _)
      intro _
      apply Keeps.bind_aside (time_aside backend)
      intro start
      apply (exec_keeps backend inTransaction _ _ ledger).bind
      rintro (e | outcome) _ rfl
      · exact .pure (.refl inTransaction _)
      · exact .bind_aside (record_aside backend _ _) fun _ =>
          .pure (.refl inTransaction _)

theorem run_keeps (backend : Backend σ) (inTransaction : Bool) (s : Statement)
    (planned : Except Cause Plan) (ledger : Ledger) :
    Keeps backend inTransaction (run backend s planned) ledger fun _ last =>
      Returned inTransaction ledger last := by
  cases planned with
  | error cause => exact .pure (.refl inTransaction ledger)
  | ok plan =>
      apply (carryOut_keeps backend inTransaction plan ledger).bind
      intro result last hreturned
      exact .pure hreturned

end Session

theorem Mapper.execute_keeps (mapper : Mapper σ) (inTransaction : Bool)
    (id : String) (parameters : List Param) (ledger : Ledger) :
    Keeps mapper.backend inTransaction (mapper.execute id parameters) ledger
      fun _ last => Returned inTransaction ledger last := by
  rw [Mapper.execute]
  cases mapper.find id with
  | error failure => exact .pure (.refl inTransaction ledger)
  | ok s => exact run_keeps mapper.backend inTransaction s _ ledger

theorem Bulk.execute_keeps (backend : Backend σ) (inTransaction : Bool)
    (dialect : Dialect) (bulk : Bulk) (ledger : Ledger) :
    Keeps backend inTransaction (bulk.execute backend dialect) ledger
      fun _ last => Returned inTransaction ledger last := by
  rw [Bulk.execute]
  split
  · exact .pure (.refl inTransaction ledger)
  · apply (run_keeps backend inTransaction bulk.statement _ ledger).bind
    rintro (failure | tally) last hreturned
    · exact .pure hreturned
    · exact .pure hreturned

namespace Cursor

/-- The ledger knows the cursor: closing it, or having closed it, returns to the
first ledger. -/
structure Tracked (inTransaction : Bool) (first : Ledger) (cursor : Cursor)
    (last : Ledger) : Prop where
  live : cursor.closed = false →
    ∃ read, Live inTransaction first ⟨cursor.number, read⟩ cursor.statement last
  done : cursor.closed = true → Returned inTransaction first last

variable {cursor : Cursor}

theorem Tracked.of_closed (hclosed : cursor.closed = true)
    (hreturned : Returned inTransaction first ledger) :
    cursor.Tracked inTransaction first ledger :=
  ⟨fun hopen => Bool.noConfusion (hclosed.symm.trans hopen), fun _ => hreturned⟩

theorem drop_aside (cursor : Cursor) : Aside (cursor.drop : Action σ Unit) := by
  rw [drop]
  split
  · exact .pure ()
  · exact warn_aside _

theorem next_keeps (h : cursor.Tracked inTransaction first ledger) :
    Keeps backend inTransaction (cursor.next backend) ledger fun result last =>
      result.2.Tracked inTransaction first last ∧
        result.2.closed = cursor.closed := by
  rw [next]
  split
  · exact .pure ⟨h, rfl⟩
  · apply (Keeps.ask (fun _ => .fetched) rfl fun _ => rfl).bind
    rintro (e | reply) _ rfl
    · exact .pure ⟨h, rfl⟩
    · simp only
      split
      · exact .pure ⟨⟨h.live, h.done⟩, rfl⟩
      · exact .pure ⟨⟨h.live, h.done⟩, rfl⟩

theorem close_keeps (h : cursor.Tracked inTransaction first ledger)
    (hsound : first.Sound inTransaction) :
    Keeps backend inTransaction (cursor.close backend) ledger fun result last =>
      result.2.closed = true ∧ Returned inTransaction first last := by
  rw [close]
  split
  · next hclosed => exact .pure ⟨hclosed, h.done hclosed⟩
  · next hopen =>
      obtain ⟨read, hlive⟩ := h.live (by simpa using hopen)
      have hrows :
          Keeps backend inTransaction
            (ask backend (.closeCursor cursor.number)) ledger
          fun _ last => last = ledger.closeCursor ⟨cursor.number, read⟩ :=
        .ask (fun _ => .closedCursor hlive.isOpen) rfl fun _ => rfl
      -- what the cursor's own close answers makes no difference to the
      -- statement
      have hstatement :
          Keeps backend inTransaction (cursor.closeStatement backend)
          (ledger.closeCursor ⟨cursor.number, read⟩) fun _ last =>
            Returned inTransaction first last := by
        rw [closeStatement]
        cases howned : cursor.statement with
        | none => exact .pure (hlive.plain howned)
        | some statement =>
            obtain ⟨rfl, hlent⟩ := hlive.owning statement howned
            exact closeStatement_keeps hlent hsound
      apply hrows.bind
      rintro rows _ rfl
      apply hstatement.bind
      intro outcome last hreturned
      exact .pure ⟨rfl, hreturned⟩

theorem collect_keeps (h : cursor.Tracked inTransaction first ledger)
    (fresh : Destination) (limit : Nat) :
    Keeps backend inTransaction (collect backend fresh limit cursor) ledger
      fun result last => result.2.Tracked inTransaction first last := by
  induction limit generalizing cursor ledger with
  | zero => exact .pure h
  | succ limit ih =>
      rw [collect]
      apply (next_keeps h).bind
      rintro ⟨cause | _ | _, cursor⟩ last ⟨htracked, -⟩
      · exact .pure htracked
      · exact .pure htracked
      · simp only
        split
        · exact .pure htracked
        · apply (ih htracked).bind
          rintro ⟨rest, cursor⟩ last htracked
          exact .pure htracked

theorem fetchAll_keeps (h : cursor.Tracked inTransaction first ledger)
    (fresh : Destination) (hsound : first.Sound inTransaction) :
    Keeps backend inTransaction (cursor.fetchAll backend fresh) ledger
      fun _ last => Returned inTransaction first last := by
  rw [fetchAll]
  apply (collect_keeps h fresh (cursor.pending.length + 1)).bind
  rintro ⟨collected, cursor⟩ last htracked
  apply (close_keeps htracked hsound).bind
  rintro ⟨closed, cursor⟩ last ⟨-, hreturned⟩
  exact .pure hreturned

theorem scanRow_keeps (h : cursor.Tracked inTransaction first ledger)
    (destination : Destination) (hsound : first.Sound inTransaction) :
    Keeps backend inTransaction (cursor.scanRow backend destination) ledger
      fun _ last => Returned inTransaction first last := by
  have hscanned :
      Keeps backend inTransaction (cursor.scanNext backend destination) ledger
      fun result last => result.2.Tracked inTransaction first last := by
    apply (next_keeps h).bind
    rintro ⟨cause | _ | _, cursor⟩ last ⟨htracked, -⟩
    · exact .pure htracked
    · exact .pure htracked
    · exact .pure htracked
  rw [scanRow]
  apply hscanned.bind
  rintro ⟨⟨scanned, destination⟩, cursor⟩ last htracked
  apply (close_keeps htracked hsound).bind
  rintro ⟨closed, cursor⟩ last ⟨-, hreturned⟩
  exact .pure hreturned

end Cursor

theorem Session.openCursor_keeps (backend : Backend σ) (inTransaction : Bool)
    (dialect : Dialect) (naming : Naming) (s : Statement)
    (parameters : List Param) (ledger : Ledger) :
    Keeps backend inTransaction
      (openCursor backend dialect naming s parameters) ledger fun result last =>
        match result with
        | .error _ => Returned inTransaction ledger last
        | .ok cursor => cursor.Tracked inTransaction ledger last := by
  rw [openCursor]
  cases Plan.query dialect s parameters with
  | error cause => exact .pure (.refl inTransaction ledger)
  | ok planned =>
      apply Keeps.bind_aside (print_aside _)
      intro _
      apply Keeps.bind_aside (time_aside backend)
      intro start
      apply (query_keeps backend inTransaction _ _ ledger).bind
      intro opened last hopened
      apply Keeps.bind_aside (record_aside backend _ _)
      intro _
      cases opened with
      | error e => exact .pure hopened
      | ok opened => exact .pure ⟨fun _ => hopened, by rintro ⟨⟩⟩

theorem Mapper.openCursor_keeps (mapper : Mapper σ) (inTransaction : Bool)
    (id : String) (parameters : List Param) (ledger : Ledger) :
    Keeps mapper.backend inTransaction (mapper.openCursor id parameters) ledger
      fun result last =>
        match result with
        | .error _ => Returned inTransaction ledger last
        | .ok cursor => cursor.Tracked inTransaction ledger last := by
  rw [Mapper.openCursor]
  cases mapper.find id with
  | error failure => exact .pure (.refl inTransaction ledger)
  | ok s =>
      exact Session.openCursor_keeps mapper.backend inTransaction mapper.dialect
        _ s parameters ledger

namespace Script

/-- The step closes its cursor. -/
def CursorStep.closes : CursorStep → Bool
  | .close | .all _ => true
  | _ => false

/-- The step closes its cursor. -/
def RowStep.closes : RowStep → Bool
  | .scan _ | .close => true
  | .drop => false

/-- The call of a mapper whose result, if it is a cursor, gets closed at some
time. -/
inductive Task.Concludes : Task → Prop where
  | execute {id : String} {parameters : List Param} :
      Concludes (.execute id parameters)
  | query {id : String} {parameters : List Param} {steps : List CursorStep}
      (closes : steps.any CursorStep.closes) :
      Concludes (.query id parameters steps)
  | queryRow {id : String} {parameters : List Param} {step : RowStep}
      (closes : step.closes) :
      Concludes (.queryRow id parameters step)
  | bulk {id : String} {steps : List BulkStep} : Concludes (.bulk id steps)

variable {cursor : Cursor}

theorem runCursorStep_keeps (h : cursor.Tracked inTransaction first ledger)
    (hsound : first.Sound inTransaction) (step : CursorStep) :
    Keeps backend inTransaction (runCursorStep backend cursor step) ledger
        fun result last =>
      match result.2 with
      | none => Returned inTransaction first last
      | some after => after.Tracked inTransaction first last ∧
          (cursor.closed ∨ step.closes → after.closed) := by
  cases step with
  | next =>
      apply (Cursor.next_keeps h).bind
      intro result last ⟨htracked, hsame⟩
      have hcloses :
          cursor.closed ∨ CursorStep.next.closes → result.2.closed := by
        rintro (hclosed | ⟨⟨⟩⟩)
        exact hsame.trans hclosed
      obtain ⟨cause | found, after⟩ := result
      · exact .pure ⟨htracked, hcloses⟩
      · exact .pure ⟨htracked, hcloses⟩
  | scan into => exact .pure ⟨h, by simp [CursorStep.closes]⟩
  | close =>
      apply (Cursor.close_keeps h hsound).bind
      rintro ⟨outcome, after⟩ last ⟨hclosed, hreturned⟩
      exact .pure ⟨.of_closed hclosed hreturned, fun _ => hclosed⟩
  | info => exact .pure ⟨h, by simp [CursorStep.closes]⟩
  | all fresh =>
      apply (Cursor.fetchAll_keeps h fresh hsound).bind
      rintro (cause | rows) last hreturned
      · exact .pure hreturned
      · exact .pure hreturned

theorem runCursorSteps_keeps (h : cursor.Tracked inTransaction first ledger)
    (hsound : first.Sound inTransaction) (steps : List CursorStep) :
    Keeps backend inTransaction (runCursorSteps backend cursor steps) ledger
        fun _ last =>
      cursor.closed ∨ steps.any CursorStep.closes →
        Returned inTransaction first last := by
  induction steps generalizing cursor ledger with
  | nil =>
      apply Keeps.bind_aside cursor.drop_aside
      intro _
      exact .pure fun hclosed => h.done (by simpa using hclosed)
  | cons step rest ih =>
      apply (runCursorStep_keeps h hsound step).bind
      rintro ⟨result, _ | after⟩ middle hstep
      · exact .pure fun _ => hstep
      · apply (ih hstep.1).bind
        intro results last hrest
        refine .pure fun hcloses => hrest ?_
        rw [List.any_cons, Bool.or_eq_true, ← or_assoc] at hcloses
        exact hcloses.imp_left hstep.2

theorem runRowStep_keeps (h : cursor.Tracked inTransaction first ledger)
    (hsound : first.Sound inTransaction) (step : RowStep) :
    Keeps backend inTransaction (runRowStep backend cursor step) ledger
      fun _ last => step.closes → Returned inTransaction first last := by
  cases step with
  | scan into =>
      apply (Cursor.scanRow_keeps h into hsound).bind
      intro result last hreturned
      exact .pure fun _ => hreturned
  | close =>
      apply (Cursor.close_keeps h hsound).bind
      intro result last hclosed
      exact .pure fun _ => hclosed.2
  | drop =>
      apply Keeps.bind_aside inTransaction_aside
      intro _
      apply Keeps.bind_aside cursor.drop_aside
      intro _
      exact .pure (by rintro ⟨⟩)

theorem runBulkSteps_keeps (mapper : Mapper σ) (inTransaction : Bool)
    (bulk : Bulk) (steps : List BulkStep) (ledger : Ledger) :
    Keeps mapper.backend inTransaction (runBulkSteps mapper bulk steps) ledger
      fun _ last => Returned inTransaction ledger last := by
  induction steps generalizing bulk ledger with
  | nil => exact .pure (.refl inTransaction ledger)
  | cons step rest ih =>
      have hrest (bulk : Bulk) (result : Result) (middle : Ledger)
          (hreturned : Returned inTransaction ledger middle) :
          Keeps mapper.backend inTransaction
            (do return result :: (← runBulkSteps mapper bulk rest)) middle
              fun _ last => Returned inTransaction ledger last := by
        apply (ih bulk middle).bind
        intro results last hlast
        exact .pure (hreturned.trans hlast)
      cases step with
      | execute =>
          apply (Bulk.execute_keeps mapper.backend inTransaction mapper.dialect
            bulk ledger).bind
          rintro ⟨outcome, bulk⟩ middle hreturned
          exact hrest bulk _ middle hreturned
      | add rows => exact hrest _ _ ledger (.refl inTransaction ledger)
      | size => exact hrest _ _ ledger (.refl inTransaction ledger)
      | clear => exact hrest _ _ ledger (.refl inTransaction ledger)
      | describe => exact hrest _ _ ledger (.refl inTransaction ledger)

theorem runTask_keeps (mapper : Mapper σ) (inTransaction : Bool) {task : Task}
    (hconcludes : task.Concludes) (ledger : Ledger) :
    Keeps mapper.backend inTransaction (runTask mapper task) ledger
      fun _ last => Returned inTransaction ledger last := by
  refine .of_sound fun hsound => ?_
  cases hconcludes with
  | @execute id parameters =>
      apply (mapper.execute_keeps inTransaction id parameters ledger).bind
      intro outcome last hreturned
      exact .pure hreturned
  | @query id parameters steps closes =>
      apply (mapper.openCursor_keeps inTransaction id parameters ledger).bind
      rintro (failure | cursor) middle hopened
      · exact .pure hopened
      · apply (runCursorSteps_keeps hopened hsound steps).bind
        intro results last hreturned
        exact .pure (hreturned (.inr closes))
  | @queryRow id parameters step closes =>
      apply (mapper.openCursor_keeps inTransaction id parameters ledger).bind
      rintro (failure | cursor) middle hopened
      · exact .pure hopened
      · apply (runRowStep_keeps hopened hsound step).bind
        intro result last hreturned
        exact .pure (hreturned closes)
  | @bulk id steps =>
      rw [runTask]
      cases mapper.bulk id with
      | error failure => exact .pure (.refl inTransaction ledger)
      | ok bulk =>
          apply (runBulkSteps_keeps mapper inTransaction bulk steps ledger).bind
          intro results last hreturned
          exact .pure hreturned

/-- A call outside transactions whose result is closed leaves nothing open,
whatever the backend answers to each of its calls. -/
theorem runTask_settles (mapper : Mapper σ) {task : Task}
    (hconcludes : task.Concludes) {before : Session σ}
    (outside : before.scope = .direct) :
    ∃ trail, ((runTask mapper task).run before).2.events =
      before.events ++ trail ∧
      Settled trail := by
  have hagrees : Agrees false (.empty before.numbered) before := ⟨rfl, outside⟩
  obtain ⟨trail, last, hextends, -, hrun, hreturned⟩ :=
    runTask_keeps mapper false hconcludes (.empty before.numbered) before
      (Ledger.sound_empty false before.numbered) hagrees
  exact ⟨trail, hextends.events,
    hrun.settled (hreturned.statements rfl) (hreturned.cursors rfl)⟩

/-- The second row cannot be fetched, and the cursor fails to close. -/
theorem runTask_settles_despite_failing_close :
    let s : Statement :=
      ⟨"q", .select, "select a from t where a = :a", [], [⟨"a", 27, .single⟩],
        "select a from t where a = ?", "select a from t where a = $1"⟩
    let script : Backend.Script :=
      ⟨[⟨"from t", ⟨["a"], [[.text "x"], [.text "y"]]⟩⟩],
        [⟨.fetch, 2, .failed "gone"⟩, ⟨.closeCursor, 1, .badConnection⟩], [],
        false, 1⟩
    let mapper : Mapper Scripted :=
      ⟨⟨"pgsql", none, none, none, none, none, false, 0, 0, none,
        .exact, false, 1, []⟩, script.backend, .dollar, ⟨[("Q", s)]⟩⟩
    let task : Task :=
      .query "q" [.scalar (.text "x")] [.next, .next, .close, .next, .close]
    let statement : Prepared := ⟨0, s.resolved, false⟩
    ∃ trail,
      ((runTask mapper task).run (mapper.session script.start)).2.events =
        trail ∧
      trail.map Event.call =
        [.prepare statement, .queryPrepared 1 statement [.text "x"], .fetch 1,
          .fetch 1, .closeCursor 1, .closeStatement statement] ∧
      Settled trail := by
  intro s script mapper task statement
  have hconcludes : task.Concludes := .query rfl
  have outside : (mapper.session script.start).scope = .direct := rfl
  obtain ⟨trail, hevents, hsettled⟩ := runTask_settles mapper hconcludes outside
  have htrail : trail =
      ((runTask mapper task).run (mapper.session script.start)).2.events :=
    hevents.symm
  refine ⟨trail, hevents, ?_, hsettled⟩
  rw [htrail]
  decide +kernel

end Script

end NamedSql
