import NamedSql.Proofs.Session.Alike
import NamedSql.Proofs.Transaction.LifeCycle

/-!
On a uniform backend, what is run in a transaction comes to the same as outside
of one, and submits the same. The two ways to the backend prepare and close
differently; a simulation over whole runs shows that callers cannot see it.
-/

namespace NamedSql

open Backend Session

variable {σ : Type} {backend : Backend σ} {start : Session σ}
  {behaviour : Behaviour}

namespace Batch

theorem executeRows_alike (huniform : backend.Uniform behaviour start.database)
    (s : Statement) {own shared : Prepared} (htwins : Twins own shared)
    (index : Nat) (tally : Tally) (rows : List Param) :
    Alike backend start Same (executeRows backend s own index tally rows)
      (executeRows backend s shared index tally rows) (Both Eq) := by
  induction rows generalizing index tally with
  | nil => exact .same _
  | cons row rest ih =>
      rw [executeRows, executeRows]
      cases s.bindRow row with
      | error cause => exact .same _
      | ok arguments =>
          apply Alike.bind_aside (print_aside _) (print_aside _)
          intro _ _
          apply Alike.bind_aside (time_aside backend) (time_aside backend)
          intro began begun
          apply (execPrepared_alike huniform htwins arguments).bind_both
          rintro (e | outcome) _ rfl
          · exact .same _
          · apply Alike.bind_aside (record_aside backend s.id began)
              (record_aside backend s.id begun)
            intro _ _
            cases insertId s outcome with
            | error e => exact .same _
            | ok id => exact ih (index + 1) (tally.push id outcome.rows)

theorem pass_alike (huniform : backend.Uniform behaviour start.database)
    (s : Statement) (rows : List Param) :
    Alike backend start Same (pass backend s rows) (pass backend s rows)
      (Both Eq) := by
  rw [pass]
  cases check s rows with
  | error refusal => exact .same _
  | ok _ =>
      apply (prepare_alike huniform s.resolved).bind_both
      rintro _ _ (@⟨own, shared, -, htwins⟩)
      apply Alike.bind_aside (print_aside _) (print_aside _)
      intro _ _
      apply (executeRows_alike huniform s htwins 0 .empty rows).bind_both
      rintro done _ rfl
      apply (releaseOrWarn_alike huniform htwins _).bind_both
      intro _ _ _
      exact .same _

theorem execute_alike (huniform : backend.Uniform behaviour start.database)
    (s : Statement) (rows : List Param) :
    Alike backend start Same (execute backend s rows) (execute backend s rows)
      (Both Eq) := by
  rw [execute]
  apply (pass_alike huniform s rows).bind_both
  rintro ⟨executed, tally, failure⟩ _ rfl
  cases failure with
  | none => exact .same _
  | some cause =>
      simp only
      split
      · apply Alike.bind_aside (warn_aside _) (warn_aside _)
        intro _ _
        apply (pass_alike huniform s (rows.drop executed)).bind_both
        rintro ⟨again, added, failure⟩ _ rfl
        cases failure with
        | none => exact .same _
        | some cause => exact .same _
      · exact .same _

end Batch

namespace Session

theorem carryOut_alike (huniform : backend.Uniform behaviour start.database)
    (plan : Plan) :
    Alike backend start Same (carryOut backend plan) (carryOut backend plan)
      (Both Eq) := by
  cases plan with
  | batch s rows => exact Batch.execute_alike huniform s rows
  | single s binding =>
      apply Alike.bind_aside (print_aside _) (print_aside _)
      intro _ _
      apply Alike.bind_aside (time_aside backend) (time_aside backend)
      intro began begun
      apply (exec_alike huniform binding.sql binding.arguments).bind_both
      rintro (e | outcome) _ rfl
      · exact .same _
      · apply Alike.bind_aside (record_aside backend s.id began)
          (record_aside backend s.id begun)
        intro _ _
        exact .same _

theorem run_alike (huniform : backend.Uniform behaviour start.database)
    (s : Statement) (planned : Except Cause Plan) :
    Alike backend start Same (run backend s planned) (run backend s planned)
      (Both Eq) := by
  cases planned with
  | error cause => exact .same _
  | ok plan =>
      apply (carryOut_alike huniform plan).bind_both
      rintro result _ rfl
      exact .same _

end Session

namespace Cursor

/-- Two cursors at the same place in the same rows. The one in the transaction
owns no statement. -/
structure Matches (left right : Cursor) : Prop where
  columns : left.columns = right.columns
  pending : left.pending = right.pending
  current : left.current = right.current
  naming : left.naming = right.naming
  closed : left.closed = right.closed
  unowned : right.statement = none

/-- Both cursors are at the same place and read the same, and what was read
besides is equal. -/
structure ReadOn {α : Type} (left right : α × Cursor)
    (outside inside : List Event) : Prop where
  value : left.1 = right.1
  place : left.2.Matches right.2
  reads : Reads left.2.number right.2.number outside inside

variable {left right : Cursor}

theorem next_alike (huniform : backend.Uniform behaviour start.database)
    (h : left.Matches right) :
    Alike backend start (Reads left.number right.number) (left.next backend)
      (right.next backend) ReadOn := by
  have hasked : Alike backend start (Reads left.number right.number)
      (ask backend (.fetch left.number)) (ask backend (.fetch right.number))
      fun answer reply outside inside =>
        answer = reply ∧ Reads left.number right.number outside inside := by
    apply Alike.ask huniform
    rintro outside inside ⟨hsame, reading, hleft, hright⟩ answer reply
      hanswer hreply
    have hfetched : answer = reply :=
      (hanswer reading hleft).trans (hreply reading hright).symm
    refine ⟨hfetched, hsame.concat rfl,
      { reading with fetched := reading.fetched + 1 }, ?_, ?_⟩
    · rw [reading?_concat, hleft]
      exact if_pos rfl
    · rw [reading?_concat, hright]
      exact if_pos rfl
  rw [next, next, h.closed]
  split
  · exact .pure fun _ _ hreads => ⟨rfl, h, hreads⟩
  · apply hasked.bind
    rintro (e | reply) _ ⟨_, _, rfl, -⟩
    · exact .pure fun _ _ hreads => ⟨rfl, h, hreads.2⟩
    · rw [h.pending]
      simp only
      cases hpending : right.pending with
      | nil =>
          exact .pure fun _ _ hreads =>
            ⟨rfl, ⟨h.columns, rfl, rfl, h.naming, rfl, h.unowned⟩, hreads.2⟩
      | cons row rest =>
          exact .pure fun _ _ hreads =>
            ⟨rfl, ⟨h.columns, rfl, rfl, h.naming, rfl, h.unowned⟩, hreads.2⟩

theorem scan_eq (h : left.Matches right) (destination : Destination) :
    left.scan destination = right.scan destination := by
  rw [scan, scan, h.closed, h.current, h.naming, h.columns]

theorem close_alike (huniform : backend.Uniform behaviour start.database)
    (h : left.Matches right) :
    Alike backend start (Reads left.number right.number) (left.close backend)
      (right.close backend) fun value other => Both Eq value.1 other.1 := by
  have hstatement : Alike backend start Same (left.closeStatement backend)
      (right.closeStatement backend) (Both Eq) := by
    rw [closeStatement, closeStatement, h.unowned]
    cases left.statement with
    | none => exact .same _
    | some statement =>
        apply Alike.ask_outside huniform
        intro outside inside hsame answer hanswer
        exact ⟨hanswer, hsame.concat_outside rfl⟩
  have hrows : Alike backend start (Reads left.number right.number)
      (ask backend (.closeCursor left.number))
      (ask backend (.closeCursor right.number))
      (Both Eq) := by
    apply Alike.ask huniform
    intro outside inside hreads answer reply hanswer hreply
    exact ⟨hanswer.trans hreply.symm, hreads.same.concat rfl⟩
  rw [close, close, h.closed]
  split
  · exact .pure fun _ _ hreads => ⟨rfl, hreads.same⟩
  · apply hrows.bind_both
    rintro rows _ rfl
    apply hstatement.bind_both
    rintro outcome _ rfl
    exact .pure fun _ _ hsame => ⟨rfl, hsame⟩

theorem collect_alike (huniform : backend.Uniform behaviour start.database)
    (h : left.Matches right) (fresh : Destination) (limit : Nat) :
    Alike backend start (Reads left.number right.number)
      (collect backend fresh limit left) (collect backend fresh limit right)
      ReadOn := by
  induction limit generalizing left right with
  | zero => exact .pure fun _ _ hreads => ⟨rfl, h, hreads⟩
  | succ limit ih =>
      rw [collect, collect]
      apply (next_alike huniform h).bind
      rintro ⟨found, after⟩ ⟨_, behind⟩ ⟨_, _, ⟨⟩, hafter, -⟩
      rcases found with cause | _ | _
      · exact .pure fun _ _ hread => ⟨rfl, hafter, hread.reads⟩
      · exact .pure fun _ _ hread => ⟨rfl, hafter, hread.reads⟩
      · simp only [scan_eq hafter]
        split
        · exact .pure fun _ _ hread => ⟨rfl, hafter, hread.reads⟩
        · apply ((ih hafter).of_condition fun _ _ hread => hread.reads).bind
          rintro ⟨rest, after⟩ ⟨_, behind⟩ ⟨_, _, ⟨⟩, hafter, -⟩
          exact .pure fun _ _ hread => ⟨rfl, hafter, hread.reads⟩

theorem fetchAll_alike (huniform : backend.Uniform behaviour start.database)
    (h : left.Matches right) (fresh : Destination) :
    Alike backend start (Reads left.number right.number)
      (left.fetchAll backend fresh) (right.fetchAll backend fresh)
      (Both Eq) := by
  rw [fetchAll, fetchAll, h.pending]
  apply (collect_alike huniform h fresh (right.pending.length + 1)).bind
  rintro ⟨collected, after⟩ ⟨_, behind⟩ ⟨_, _, ⟨⟩, hafter, -⟩
  apply ((close_alike huniform hafter).of_condition fun _ _ hread =>
    hread.reads).bind
  rintro ⟨closed, after⟩ ⟨_, behind⟩ ⟨_, _, ⟨⟩, -⟩
  exact .pure fun _ _ hboth => ⟨rfl, hboth.2⟩

/-- Two cursors that read on at the same place. -/
structure Tied (left right : Cursor) (outside inside : List Event) : Prop where
  place : left.Matches right
  reads : Reads left.number right.number outside inside

end Cursor

theorem Session.openCursor_alike
    (huniform : backend.Uniform behaviour start.database) (dialect : Dialect)
    (naming : Naming) (s : Statement) (parameters : List Param) :
    Alike backend start Same (openCursor backend dialect naming s parameters)
      (openCursor backend dialect naming s parameters)
      (Either Cursor.Tied) := by
  rw [openCursor]
  cases Plan.query dialect s parameters with
  | error cause => exact .pure fun _ _ hsame => .failed hsame
  | ok planned =>
      apply Alike.bind_aside (print_aside _) (print_aside _)
      intro _ _
      apply Alike.bind_aside (time_aside backend) (time_aside backend)
      intro began begun
      apply (query_alike huniform planned.2.sql planned.2.arguments).bind_either
      · intro e
        apply Alike.bind_aside (record_aside backend planned.1.id began)
          (record_aside backend planned.1.id begun)
        intro _ _
        exact .pure fun _ _ hsame => .failed hsame
      · rintro left right ⟨_, _, hopened⟩
        have hplace :
            (Cursor.ofQuery naming left).Matches (.ofQuery naming right) :=
          ⟨congrArg ResultSet.columns hopened.result,
            congrArg ResultSet.rows hopened.result, rfl, rfl, rfl,
            hopened.unowned⟩
        apply Alike.bind_aside (record_aside backend planned.1.id began)
          (record_aside backend planned.1.id begun)
        intro _ _
        exact .pure fun _ _ hopened => .succeeded ⟨hplace, hopened.reads⟩

theorem Mapper.execute_alike (mapper : Mapper σ)
    (huniform : mapper.backend.Uniform behaviour start.database) (id : String)
    (parameters : List Param) :
    Alike mapper.backend start Same (mapper.execute id parameters)
      (mapper.execute id parameters) (Both Eq) := by
  rw [Mapper.execute]
  cases mapper.find id with
  | error failure => exact .same _
  | ok s => exact run_alike huniform s _

theorem Mapper.openCursor_alike (mapper : Mapper σ)
    (huniform : mapper.backend.Uniform behaviour start.database) (id : String)
    (parameters : List Param) :
    Alike mapper.backend start Same (mapper.openCursor id parameters)
      (mapper.openCursor id parameters) (Either Cursor.Tied) := by
  rw [Mapper.openCursor]
  cases mapper.find id with
  | error failure => exact .pure fun _ _ hsame => .failed hsame
  | ok s =>
      exact Session.openCursor_alike huniform mapper.dialect _ s parameters

theorem Bulk.execute_alike (huniform : backend.Uniform behaviour start.database)
    (dialect : Dialect) (bulk : Bulk) :
    Alike backend start Same (bulk.execute backend dialect)
      (bulk.execute backend dialect) (Both Eq) := by
  rw [Bulk.execute]
  split
  · exact .same _
  · apply (run_alike huniform bulk.statement _).bind_both
    rintro (failure | tally) _ rfl
    · exact .same _
    · exact .same _

namespace Script

/-- A call that comes to a complete result: an execution, the steps of a bulk,
or a query whose rows are read all at once. -/
inductive Task.Complete : Task → Prop where
  | execute {id : String} {parameters : List Param} :
      Complete (.execute id parameters)
  | bulk {id : String} {steps : List BulkStep} : Complete (.bulk id steps)
  | fetchAll {id : String} {parameters : List Param} {fresh : Destination} :
      Complete (.query id parameters [.all fresh])

theorem runBulkSteps_alike (mapper : Mapper σ)
    (huniform : mapper.backend.Uniform behaviour start.database) (bulk : Bulk)
    (steps : List BulkStep) :
    Alike mapper.backend start Same (runBulkSteps mapper bulk steps)
      (runBulkSteps mapper bulk steps) (Both Eq) := by
  induction steps generalizing bulk with
  | nil => exact .same _
  | cons step rest ih =>
      have hrest (bulk : Bulk) (result : Result) :
          Alike mapper.backend start Same
            (do return result :: (← runBulkSteps mapper bulk rest))
            (do return result :: (← runBulkSteps mapper bulk rest))
                (Both Eq) := by
        apply (ih bulk).bind_both
        rintro results _ rfl
        exact .same _
      cases step with
      | execute =>
          apply (Bulk.execute_alike huniform mapper.dialect bulk).bind_both
          rintro ⟨outcome, bulk⟩ _ rfl
          exact hrest bulk _
      | add rows => exact hrest _ _
      | size => exact hrest _ _
      | clear => exact hrest _ _
      | describe => exact hrest _ _

theorem runCursorSteps_all_alike
    (huniform : backend.Uniform behaviour start.database) {left right : Cursor}
    (h : left.Matches right) (fresh : Destination) :
    Alike backend start (Cursor.Tied left right)
      (runCursorSteps backend left [.all fresh])
      (runCursorSteps backend right [.all fresh]) (Both Eq) := by
  have hfetched :
      Alike backend start (Cursor.Tied left right) (left.fetchAll backend fresh)
      (right.fetchAll backend fresh) (Both Eq) :=
    (Cursor.fetchAll_alike huniform h fresh).of_condition fun _ _ htied =>
      htied.reads
  have hstep : Alike backend start (Cursor.Tied left right)
      (runCursorStep backend left (.all fresh))
      (runCursorStep backend right (.all fresh))
      (Both fun step other => step = other ∧ step.2 = none) := by
    apply hfetched.bind_both
    rintro (cause | rows) _ rfl
    · exact .pure fun _ _ hsame => ⟨⟨rfl, rfl⟩, hsame⟩
    · exact .pure fun _ _ hsame => ⟨⟨rfl, rfl⟩, hsame⟩
  apply hstep.bind_both
  rintro ⟨result, _⟩ _ ⟨rfl, rfl⟩
  exact .same _

theorem runTask_alike (mapper : Mapper σ)
    (huniform : mapper.backend.Uniform behaviour start.database) {task : Task}
    (hcomplete : task.Complete) :
    Alike mapper.backend start Same (runTask mapper task) (runTask mapper task)
      (Both Eq) := by
  cases hcomplete with
  | @execute id parameters =>
      apply (mapper.execute_alike huniform id parameters).bind_both
      rintro outcome _ rfl
      exact .same _
  | @bulk id steps =>
      rw [runTask]
      cases mapper.bulk id with
      | error failure => exact .same _
      | ok bulk =>
          apply (runBulkSteps_alike mapper huniform bulk steps).bind_both
          rintro results _ rfl
          exact .same _
  | @fetchAll id parameters fresh =>
      apply (mapper.openCursor_alike huniform id parameters).bind_either
      · exact fun failure => .same _
      · rintro left right ⟨_, _, htied⟩
        apply (runCursorSteps_all_alike huniform htied.place fresh).bind_both
        rintro results _ rfl
        exact .same _

/-- Tasks that come to complete results run in a transaction as they do outside
of one. -/
theorem tasks_alike (mapper : Mapper σ)
    (huniform : mapper.backend.Uniform behaviour start.database)
    {tasks : List Task} (hcomplete : ∀ task ∈ tasks, task.Complete) :
    Alike mapper.backend start Same (tasks.mapM (runTask mapper))
      (tasks.mapM (runTask mapper)) (Both Eq) := by
  induction tasks with
  | nil => exact .same _
  | cons task rest ih =>
      obtain ⟨htask, hrest⟩ := List.forall_mem_cons.mp hcomplete
      rw [List.mapM_cons]
      apply (runTask_alike mapper huniform htask).bind_both
      rintro answer _ rfl
      apply (ih hrest).bind_both
      rintro answers _ rfl
      exact .same _

end Script

namespace Transaction

open Script

/-- On a uniform backend a sequence of calls gives the same answers inside a
transaction as outside, one by one, and submits the same executions and queries
with the same arguments. -/
theorem tasks_run_as_outside (mapper : Mapper σ) {behaviour : Behaviour}
    {before : Session σ}
    (huniform : mapper.backend.Uniform behaviour before.database)
    (direct : before.scope = .direct) {outer : Scope}
    (begun : ((enter mapper.backend).run before).1 = .ok outer)
    {tasks : List Task} (hcomplete : ∀ task ∈ tasks, task.Complete) :
    let running := tasks.mapM (runTask mapper)
    let plain := running.run before
    let within := running.run ((enter mapper.backend).run before).2
    ∃ outside inside, plain.2.events = before.events ++ outside ∧
      within.2.events = before.events ++ inside ∧
      plain.1 = within.1 ∧ submissions outside = submissions inside := by
  intro running plain within
  have hentered := enter_asks mapper.backend before
  simp only [begun] at hentered
  have habreast :
      Abreast mapper.backend before before
        ((enter mapper.backend).run before).2 []
      [⟨.beginTransaction, .ok ()⟩] :=
    ⟨.of_silent rfl rfl, hentered.1, direct, [], hentered.2, by simp⟩
  obtain ⟨outside, inside, hrun, hanswers, hsame⟩ :=
    tasks_alike mapper huniform hcomplete _ _ _ _ habreast rfl
  exact ⟨outside, inside, hrun.outside.events, hrun.inside.events,
    hanswers, hsame⟩

/-- The connection is lost at the second execution, and the bulk goes on in a
second pass: with a new statement outside, with the same one in the
transaction. -/
theorem tasks_run_as_outside_despite_lost_connection :
    let behaviour : Behaviour := ⟨fun count _ _ =>
        if count = 1 then .error .badConnection else .ok ⟨1, some count⟩,
      fun _ _ => .ok ⟨["a"], [[.text "x"]]⟩, fun _ _ _ => .ok ()⟩
    let add : Statement :=
      ⟨"add", .insert, "insert into t values (:a)", [], [⟨"a", 23, .single⟩],
        "insert into t values (?)", "insert into t values ($1)"⟩
    let read : Statement :=
      ⟨"read", .select, "select a from t", [], [], "select a from t",
        "select a from t"⟩
    let mapper : Mapper (List Event) :=
      ⟨⟨"pgsql", none, none, none, none, none, false, 0, 0, none,
        .exact, false, 1, []⟩, behaviour.backend, .dollar,
        ⟨[("ADD", add), ("READ", read)]⟩⟩
    let rows : List Param :=
      [.sequence [.scalar (.text "x")], .sequence [.scalar (.text "y")]]
    let tasks : List Task := [.bulk "add" [.add rows, .execute],
      .query "read" [] [.all (.ofTargets [.text])]]
    let before := mapper.session []
    (let running := tasks.mapM (runTask mapper)
      let plain := running.run before
      let within := running.run ((enter mapper.backend).run before).2
      ∃ outside inside, plain.2.events = before.events ++ outside ∧
        within.2.events = before.events ++ inside ∧
        plain.1 = within.1 ∧ submissions outside = submissions inside) ∧
    submissions ((tasks.mapM (runTask mapper)).run before).2.events =
      [.exec true add.resolved [.text "x"], .exec true add.resolved [.text "y"],
        .exec true add.resolved [.text "y"], .query false read.resolved [],
        .fetch, .fetch, .closeCursor] := by
  intro behaviour add read mapper rows tasks before
  have hcomplete : ∀ task ∈ tasks, task.Complete := by
    simp only [tasks, List.forall_mem_cons]
    exact ⟨.bulk, .fetchAll, by simp⟩
  have direct : before.scope = .direct := rfl
  have begun : ((enter mapper.backend).run before).1 = .ok .direct := rfl
  have huniform : mapper.backend.Uniform behaviour before.database :=
    behaviour.backend_uniform
  refine ⟨tasks_run_as_outside mapper huniform direct begun hcomplete, ?_⟩
  decide +kernel

end Transaction

end NamedSql
