import NamedSql.Bulk
import NamedSql.Proofs.Batch.Recovery
import NamedSql.Proofs.Binding.Arity
import NamedSql.Proofs.Execute.Planning
import NamedSql.Proofs.Session.Trail

/-!
Enough arguments for every call. Whatever is executed or queried for a
statement, alone or as a row, gets an argument for each column of the settled
statement at least. Binding sees to that for single calls and for rows alike;
only a call without parameters is not bound at all.
-/

namespace NamedSql

open Backend

variable {σ : Type}

/-- The arguments that a call passes with its SQL, or to a prepared
statement. -/
def Backend.Call.arguments? : Call → Option (List Value)
  | .exec _ _ arguments => some arguments
  | .execPrepared _ arguments => some arguments
  | .query _ _ _ arguments => some arguments
  | .queryPrepared _ _ arguments => some arguments
  | _ => none

/-- Only arguments that fit are passed along the events. -/
def Backend.PassOnly (fits : List Value → Prop) (trail : List Event) : Prop :=
  ∀ event ∈ trail, ∀ arguments, event.call.arguments? = some arguments →
    fits arguments

namespace Backend.PassOnly

variable {fits : List Value → Prop}

theorem nil : PassOnly fits [] := by
  intro event hmem
  cases hmem

theorem append {left right : List Event} (hleft : PassOnly fits left)
    (hright : PassOnly fits right) : PassOnly fits (left ++ right) :=
  List.forall_mem_append.mpr ⟨hleft, hright⟩

theorem singleton {event : Event}
    (h : ∀ arguments, event.call.arguments? = some arguments → fits arguments) :
    PassOnly fits [event] := by
  simpa [PassOnly] using h

theorem mono {looser : List Value → Prop} {trail : List Event}
    (h : PassOnly fits trail)
    (himp : ∀ arguments, fits arguments → looser arguments) :
    PassOnly looser trail :=
  fun event hmem arguments hpassed =>
    himp arguments (h event hmem arguments hpassed)

end Backend.PassOnly

namespace Session

variable {α β : Type} {backend : Backend σ} {fits : List Value → Prop}

/-- From every session the action passes only arguments that fit. -/
def Passes (backend : Backend σ) (fits : List Value → Prop)
    (action : Action σ α) : Prop :=
  Leaves backend action fun _ trail => PassOnly fits trail

namespace Passes

theorem pure (value : α) : Passes backend fits (Pure.pure value : Action σ α) :=
  Leaves.pure .nil

theorem bind {action : Action σ β} {next : β → Action σ α}
    (haction : Passes backend fits action)
    (hnext : ∀ value, Passes backend fits (next value)) :
    Passes backend fits (action >>= next) := by
  apply Leaves.bind haction
  intro value left hleft
  exact (hnext value).mono fun _ right hright => hleft.append hright

/-- What passes the backend by passes it no arguments. -/
theorem bind_silent {action : Action σ β} {next : β → Action σ α}
    (hsilent : Silent action)
    (hnext : ∀ value, Passes backend fits (next value)) :
    Passes backend fits (action >>= next) :=
  Leaves.bind_silent (hsilent.leaves backend) hnext

theorem ask {call : Call}
    (h : ∀ arguments, call.arguments? = some arguments → fits arguments) :
    Passes backend fits (Session.ask backend call) := by
  apply (ask_leaves backend call).mono
  rintro answer _ rfl
  exact .singleton h

theorem mono_fits {looser : List Value → Prop} {action : Action σ α}
    (h : Passes backend fits action)
    (himp : ∀ arguments, fits arguments → looser arguments) :
    Passes backend looser action :=
  h.mono fun _ _ hpasses => hpasses.mono himp

theorem run {action : Action σ α} (h : Passes backend fits action)
    (before : Session σ) :
    ∃ trail, (action.run before).2.events = before.events ++ trail ∧
      PassOnly fits trail := by
  obtain ⟨trail, hextends, hpasses⟩ := h before
  exact ⟨trail, hextends.events, hpasses⟩

end Passes

theorem prepare_passes (sql : String) :
    Passes backend fits (prepare backend sql) := by
  apply (prepare_leaves backend sql).mono
  rintro (e | statement) trail hprepares
  · obtain ⟨statement, rfl⟩ := hprepares
    exact .singleton fun _ hpassed => nomatch hpassed
  · rcases hprepares.2 with rfl | rfl
    · exact .nil
    · exact .singleton fun _ hpassed => nomatch hpassed

theorem releaseOrWarn_passes (statement : Prepared) (warning : String) :
    Passes backend fits (releaseOrWarn backend statement warning) := by
  apply (releaseOrWarn_leaves backend statement warning).mono
  rintro _ trail (rfl | ⟨answer, rfl⟩)
  · exact .nil
  · exact .singleton fun _ hpassed => nomatch hpassed

theorem exec_passes (sql : String) {arguments : List Value}
    (h : fits arguments) :
    Passes backend fits (exec backend sql arguments) := by
  apply Passes.bind_silent inTransaction_aside.toSilent
  intro inTransaction
  exact .ask fun _ hpassed => Option.some.inj hpassed ▸ h

theorem queryPrepared_passes (statement : Prepared) {arguments : List Value}
    (h : fits arguments) :
    Passes backend fits (queryPrepared backend statement arguments) := by
  apply Passes.bind_silent nextNumber_silent
  intro cursor
  refine (Passes.ask fun _ hpassed => Option.some.inj hpassed ▸ h).bind ?_
  rintro (e | result)
  · exact .pure _
  · exact .pure _

/-- A query passes its arguments, whether it prepares a statement for them or
not. -/
theorem query_passes (sql : String) {arguments : List Value}
    (h : fits arguments) :
    Passes backend fits (query backend sql arguments) := by
  rw [query]
  split
  · apply Passes.bind_silent nextNumber_silent
    intro cursor
    apply Passes.bind_silent inTransaction_aside.toSilent
    intro inTransaction
    refine (Passes.ask fun _ hpassed => Option.some.inj hpassed ▸ h).bind ?_
    rintro (e | result)
    · exact .pure _
    · exact .pure _
  · apply (prepare_passes sql).bind
    rintro (e | statement)
    · exact .pure _
    · apply (queryPrepared_passes statement h).bind
      rintro (e | opened)
      · exact (releaseOrWarn_passes statement _).bind fun _ => .pure _
      · exact .pure _

end Session

namespace Batch

open Session

variable {backend : Backend σ} {s : Statement}

/-- What a row is executed with are its own arguments, one for each column. -/
theorem executeRows_passes (statement : Prepared) (index : Nat) (tally : Tally)
    (rows : List Param) :
    Passes backend (fun arguments => arguments.length = s.columns.length)
      (executeRows backend s statement index tally rows) := by
  induction rows generalizing index tally with
  | nil => exact .pure _
  | cons row rest ih =>
      rw [executeRows]
      cases hbind : s.bindRow row with
      | error cause => exact .pure _
      | ok arguments =>
          apply Passes.bind_silent (print_aside _).toSilent
          intro _
          apply Passes.bind_silent (time_aside backend).toSilent
          intro start
          refine (Passes.ask fun _ hpassed => ?_).bind ?_
          · -- a row is bound before it is executed, and binding counts
            obtain rfl := Option.some.inj hpassed
            exact Statement.length_bindRow hbind
          · rintro (e | outcome)
            · exact .pure _
            · apply Passes.bind_silent
                (record_aside backend s.id start).toSilent
              intro _
              cases insertId s outcome with
              | error e => exact .pure _
              | ok id => exact ih _ _

theorem pass_passes (rows : List Param) :
    Passes backend (fun arguments => arguments.length = s.columns.length)
      (pass backend s rows) := by
  rw [pass]
  cases check s rows with
  | error refusal => exact .pure _
  | ok _ =>
      apply (prepare_passes s.resolved).bind
      rintro (e | statement)
      · exact .pure _
      · apply Passes.bind_silent (print_aside _).toSilent
        intro _
        apply (executeRows_passes statement 0 .empty rows).bind
        intro done
        exact (releaseOrWarn_passes statement _).bind fun _ => .pure _

theorem execute_passes (rows : List Param) :
    Passes backend (fun arguments => arguments.length = s.columns.length)
      (execute backend s rows) := by
  apply (pass_passes rows).bind
  rintro ⟨executed, tally, failure⟩
  cases failure with
  | none => exact .pure _
  | some cause =>
      simp only
      split
      · apply Passes.bind_silent (warn_aside _).toSilent
        intro _
        apply (pass_passes (rows.drop executed)).bind
        rintro ⟨again, added, failure⟩
        cases failure with
        | none => exact .pure _
        | some cause => exact .pure _
      · exact .pure _

end Batch

/-- What a call may pass: arguments for all columns of the settled statement, or
none at all where it has no parameters. -/
def Statement.Fed (dialect : Dialect) (s : Statement) (parameters : List Param)
    (arguments : List Value) : Prop :=
  ∃ settled, s.settled dialect parameters = .ok settled ∧
    (settled.columns.length ≤ arguments.length ∨
      parameters = [] ∧ arguments = [])

namespace Plan

variable {dialect : Dialect} {s : Statement} {parameters : List Param}

/-- What carrying out a plan may pass: the arguments of the binding, or those of
a row. -/
def Passing : Plan → List Value → Prop
  | .single _ binding, arguments => arguments = binding.arguments
  | .batch s _, arguments => arguments.length = s.columns.length

/-- An execution passes what is bound for the settled statement, alone or row by
row. -/
theorem execution_passing {plan : Plan} {arguments : List Value}
    (h : execution dialect s parameters = .ok plan)
    (hpassing : plan.Passing arguments) :
    s.Fed dialect parameters arguments := by
  obtain ⟨-, settled, arrangement, hsettled, harranged, hplan⟩ :=
    execution_eq_ok_iff.mp h
  refine ⟨settled, hsettled, ?_⟩
  obtain ⟨rows, -, rfl⟩ | ⟨binding, hbinding, rfl⟩ :=
    bindOrBatch_eq_ok_iff.mp hplan
  · exact .inl hpassing.ge
  · obtain rfl : arguments = binding.arguments := hpassing
    exact Statement.length_columns_le_or_none harranged hbinding

theorem rows_passing {rows : List Param} {plan : Plan} {arguments : List Value}
    (h : Plan.rows dialect s rows = .ok plan)
    (hpassing : plan.Passing arguments) :
    ∃ settled, s.settled dialect [] = .ok settled ∧
      arguments.length = settled.columns.length := by
  obtain ⟨-, settled, hsettled, rfl⟩ := rows_eq_ok_iff.mp h
  exact ⟨settled, hsettled, hpassing⟩

theorem query_fed {settled : Statement} {binding : Binding}
    (h : query dialect s parameters = .ok (settled, binding)) :
    s.Fed dialect parameters binding.arguments := by
  obtain ⟨-, hsettled, arrangement, harranged, hbinding⟩ := query_eq_ok_iff.mp h
  exact ⟨settled, hsettled,
    Statement.length_columns_le_or_none harranged hbinding⟩

end Plan

namespace Session

variable {backend : Backend σ} {fits : List Value → Prop}

theorem carryOut_passes (plan : Plan) :
    Passes backend plan.Passing (carryOut backend plan) := by
  cases plan with
  | batch s rows => exact Batch.execute_passes rows
  | single s binding =>
      apply Passes.bind_silent (print_aside _).toSilent
      intro _
      apply Passes.bind_silent (time_aside backend).toSilent
      intro start
      have hexec : Passes backend (Plan.single s binding).Passing
          (exec backend binding.sql binding.arguments) :=
            exec_passes binding.sql rfl
      apply hexec.bind
      rintro (e | outcome)
      · exact .pure _
      · apply Passes.bind_silent (record_aside backend s.id start).toSilent
        intro _
        exact .pure _

theorem run_passes (s : Statement) {planned : Except Cause Plan}
    (hplanned : ∀ plan, planned = .ok plan → ∀ arguments,
      plan.Passing arguments →
      fits arguments) :
    Passes backend fits (run backend s planned) := by
  cases planned with
  | error cause => exact .pure _
  | ok plan =>
      apply ((carryOut_passes plan).mono_fits (hplanned plan rfl)).bind
      intro outcome
      exact .pure _

theorem execute_passes (dialect : Dialect) (s : Statement)
    (parameters : List Param) :
    Passes backend (s.Fed dialect parameters)
      (execute backend dialect s parameters) :=
  run_passes s fun _ hplan _ => Plan.execution_passing hplan

theorem openCursor_passes (dialect : Dialect) (naming : Naming) (s : Statement)
    (parameters : List Param) :
    Passes backend (s.Fed dialect parameters)
      (openCursor backend dialect naming s parameters) := by
  rw [openCursor]
  cases hplan : Plan.query dialect s parameters with
  | error cause => exact .pure _
  | ok planned =>
      obtain ⟨settled, binding⟩ := planned
      apply Passes.bind_silent (print_aside _).toSilent
      intro _
      apply Passes.bind_silent (time_aside backend).toSilent
      intro start
      apply (query_passes binding.sql (Plan.query_fed hplan)).bind
      intro opened
      apply Passes.bind_silent (record_aside backend settled.id start).toSilent
      intro _
      cases opened with
      | error e => exact .pure _
      | ok opened => exact .pure _

end Session

/-- Whatever is passed for a row of a bulk has an argument for each column. -/
theorem Bulk.execute_passes {backend : Backend σ} (dialect : Dialect)
    (bulk : Bulk) :
    Session.Passes backend (fun arguments =>
        ∃ settled, bulk.statement.settled dialect [] = .ok settled ∧
          arguments.length = settled.columns.length)
      (bulk.execute backend dialect) := by
  rw [Bulk.execute]
  split
  · exact .pure _
  · apply (Session.run_passes bulk.statement fun _ hplan _ =>
      Plan.rows_passing hplan).bind
    rintro (failure | tally)
    · exact .pure _
    · exact .pure _

namespace Session

/-- No call goes short of arguments. What is executed or queried for a call has
an argument for each column of the settled statement at least, or none where
there are no parameters; what is executed for a row of a bulk has one for each
column. -/
theorem calls_pass_enough (backend : Backend σ) (dialect : Dialect)
    (s : Statement) (before : Session σ) :
    (∀ parameters, ∃ trail,
      ((execute backend dialect s parameters).run before).2.events =
        before.events ++ trail ∧
        PassOnly (s.Fed dialect parameters) trail) ∧
    (∀ naming parameters, ∃ trail,
      ((openCursor backend dialect naming s parameters).run before).2.events =
          before.events ++ trail ∧
        PassOnly (s.Fed dialect parameters) trail) ∧
    (∀ rows, ∃ trail,
      ((Bulk.execute backend dialect ⟨s, rows⟩).run before).2.events =
        before.events ++ trail ∧
        PassOnly (fun arguments => ∃ settled,
          s.settled dialect [] = .ok settled ∧
          arguments.length = settled.columns.length) trail) := by
  refine ⟨fun parameters => ?_, fun naming parameters => ?_, fun rows => ?_⟩
  · exact (execute_passes dialect s parameters).run before
  · exact (openCursor_passes dialect naming s parameters).run before
  · exact (Bulk.execute_passes dialect ⟨s, rows⟩).run before

/-- Without parameters the columns are not looked at; an empty list, which
supplies as little, is refused. -/
theorem execute_without_parameters_goes_short :
    let s : Statement :=
      ⟨"setA", .update, "UPDATE t SET a = :a", [], [⟨"a", 18, .single⟩],
        "UPDATE t SET a = ?", "UPDATE t SET a = ?"⟩
    let before : Session Nat := .start 4 ⟨false, none⟩
    let bare := (execute Batch.numbering .question s []).run before
    let listed :=
      (execute Batch.numbering .question s [.sequence []]).run before
    (Statement.raw s.id s.kind s.text []).normalize .question = .ok s ∧
      s.settled .question [] = .ok s ∧
      bare.2.events.map Event.call = [.exec false "UPDATE t SET a = ?" []] ∧
      ¬ PassOnly (fun arguments => s.columns.length ≤ arguments.length)
        bare.2.events ∧
      listed.1 =
        .error
          (Failure.inStatement "setA" (.plain (.bind (.countMismatch 1 0)))) ∧
      listed.2.events = [] := by
  intro s before bare listed
  have hnormal :
      (Statement.raw s.id s.kind s.text []).normalize .question = .ok s :=
    Statement.normalize_eq_ok_iff.mpr ⟨"UPDATE t SET a = ".toList.map .plain ++
      [.slot ['a'] .single],
      Template.items_eq_ok_iff.mpr ⟨by decide, by decide⟩, by decide⟩
  refine ⟨hnormal, rfl, by decide, ?_, by decide, rfl⟩
  intro hpasses
  exact absurd (hpasses _ (List.mem_singleton_self _) [] rfl) (by decide)

end Session

end NamedSql
