import Mathlib.Logic.Function.Basic
import NamedSql.Proofs.Execute.Releasing

/-!
The life of a transaction, from its beginning to its commit or rollback. What
happens in between is up to the work that it runs: any number of calls, each
chosen by the answers before it, on any number of cursors at a time. Whatever
the work asks for and the backend answers, the work keeps the ledger of a
transaction, which tells what is left to be closed before the end.
-/

namespace NamedSql.Transaction

open Backend Session

/-- What the work in a transaction may ask a mapper for. Cursors are kept in
numbered places. -/
inductive Request where
  | execute (id : String) (parameters : List Param)
  | bulk (id : String) (steps : List Script.BulkStep)
  | query (place : Nat) (id : String) (parameters : List Param)
  | read (place : Nat) (step : Script.CursorStep)
  | readRow (place : Nat) (step : Script.RowStep)

/-- Work asks for one thing after the other, and may decide by each answer how
to go on. -/
inductive Work (α : Type) where
  | done (outcome : Except Failure α)
  | ask (request : Request) (next : Script.Answer → Work α)

/-- The cursors that the work has in hand. -/
abbrev Places := Nat → Option Cursor

variable {σ α : Type}

/-- Serves a request. A step on an empty place does nothing. -/
def Request.serve (mapper : Mapper σ) (places : Places) :
    Request → Action σ (Script.Answer × Places)
  | .execute id parameters =>
      return (← Script.runTask mapper (.execute id parameters), places)
  | .bulk id steps => return (← Script.runTask mapper (.bulk id steps), places)
  | .query place id parameters => do
      match ← mapper.openCursor id parameters with
      | .error failure => return (.single (.error failure), places)
      | .ok cursor =>
          return (.single (.ok (.cursor cursor)),
            Function.update places place (some cursor))
  | .read place step =>
      match places place with
      | none => return (.several [], places)
      | some cursor => do
          let (result, left) ← Script.runCursorStep mapper.backend cursor step
          return (.single result, Function.update places place left)
  | .readRow place step =>
      match places place with
      | none => return (.several [], places)
      | some cursor => do
          let result ← Script.runRowStep mapper.backend cursor step
          return (.single result, Function.update places place none)

def Work.run (mapper : Mapper σ) (places : Places) :
    Work α → Action σ (Except Failure α)
  | .done outcome => return outcome
  | .ask request next => do
      let (answer, places) ← request.serve mapper places
      (next answer).run mapper places

/-- How a transaction ends, by the outcome of the work in it: the call that ends
it with its answer, and what is reported. The failure of a rollback is not. -/
inductive Ended : Except Failure α → Event → Except Failure α → Prop where
  | committed {value : α} : Ended (.ok value) ⟨.commit, .ok ()⟩ (.ok value)
  | uncommitted {value : α} {e : DriverError} :
      Ended (.ok value) ⟨.commit, .error e⟩ (.error (.plain (.driver e)))
  | rolledBack {failure : Failure} {answer : Except DriverError Unit} :
      Ended (.error failure) ⟨.rollback, answer⟩ (.error failure)

variable {backend : Backend σ} {first ledger : Ledger}

/-- Closing the cursor would close no statement with it. -/
def OwnsNothing (cursor : Cursor) : Prop :=
  cursor.closed = false → cursor.statement = none

def Unowned (places : Places) : Prop :=
  ∀ place cursor, places place = some cursor → OwnsNothing cursor

theorem Unowned.update {places : Places} (h : Unowned places) (place : Nat)
    {found : Option Cursor}
    (hfound : ∀ cursor, found = some cursor → OwnsNothing cursor) :
    Unowned (Function.update places place found) := by
  intro other cursor hother
  rw [Function.update_apply] at hother
  split at hother
  · exact hfound cursor hother
  · exact h other cursor hother

/-- Inside a transaction a cursor is tracked if it owns no statement, whatever
the ledgers hold. -/
theorem tracked_inside_iff {cursor : Cursor} :
    cursor.Tracked true first ledger ↔ OwnsNothing cursor := by
  constructor
  · intro htracked hopen
    obtain ⟨read, hlive⟩ := htracked.live hopen
    cases howned : cursor.statement with
    | none => rfl
    | some statement => cases (hlive.owning statement howned).1
  · intro howns
    refine ⟨fun hopen => ⟨none, by rintro ⟨⟩, fun _ => .inside first _, ?_⟩,
      fun _ => .inside first _⟩
    intro statement howned
    rw [howns hopen] at howned
    cases howned

theorem Request.serve_keeps (mapper : Mapper σ) {places : Places}
    (h : Unowned places) (request : Request) (ledger : Ledger) :
    Keeps mapper.backend true (request.serve mapper places) ledger
      fun result _ => Unowned result.2 := by
  refine .of_sound fun hsound => ?_
  cases request with
  | execute id parameters =>
      apply (Script.runTask_keeps mapper true .execute ledger).bind
      intro answer last _
      exact .pure h
  | bulk id steps =>
      apply (Script.runTask_keeps mapper true .bulk ledger).bind
      intro answer last _
      exact .pure h
  | query place id parameters =>
      apply (mapper.openCursor_keeps true id parameters ledger).bind
      rintro (failure | cursor) last hopened
      · exact .pure h
      · refine .pure (h.update place ?_)
        rintro _ ⟨⟩
        exact tracked_inside_iff.mp hopened
  | read place step =>
      rw [serve]
      cases hplace : places place with
      | none => exact .pure h
      | some cursor =>
          have htracked : cursor.Tracked true ledger ledger :=
            tracked_inside_iff.mpr (h place cursor hplace)
          apply (Script.runCursorStep_keeps htracked hsound step).bind
          rintro ⟨result, _ | after⟩ last hstep
          · refine .pure (h.update place ?_)
            rintro _ ⟨⟩
          · refine .pure (h.update place ?_)
            rintro _ ⟨⟩
            exact tracked_inside_iff.mp hstep.1
  | readRow place step =>
      rw [serve]
      cases hplace : places place with
      | none => exact .pure h
      | some cursor =>
          have htracked : cursor.Tracked true ledger ledger :=
            tracked_inside_iff.mpr (h place cursor hplace)
          apply (Script.runRowStep_keeps htracked hsound step).bind
          intro result last _
          refine .pure (h.update place ?_)
          rintro _ ⟨⟩

theorem Work.run_keeps (mapper : Mapper σ) {places : Places}
    (h : Unowned places) (work : Work α) (ledger : Ledger) :
    Keeps mapper.backend true (work.run mapper places) ledger fun _ _ =>
      True := by
  induction work generalizing places ledger with
  | done outcome => exact .pure trivial
  | ask request next ih =>
      apply (request.serve_keeps mapper h ledger).bind
      rintro ⟨answer, places⟩ middle hplaces
      exact ih answer hplaces middle

theorem closePrepared_leaves (backend : Backend σ) (held : List Prepared) :
    Leaves backend (closePrepared backend held) fun _ trail =>
      trail.map Event.call = held.map Call.closeStatement := by
  induction held with
  | nil => exact .pure rfl
  | cons statement rest ih =>
      have hrest (answer : Except DriverError Unit) :
          Leaves backend (closePrepared backend rest) fun _ trail =>
            (⟨.closeStatement statement, answer⟩ :: trail).map Event.call =
              (statement :: rest).map Call.closeStatement := by
        apply ih.mono
        intro _ trail htrail
        rw [List.map_cons, htrail, List.map_cons]
      apply (ask_leaves backend _).bind
      rintro (e | reply) _ rfl
      · apply (warn_leaves backend _).bind_silent
        intro _
        exact hrest _
      · exact hrest _

/-- Whatever the closes answer, all statements are closed and then the
transaction is ended. -/
theorem settle_leaves (backend : Backend σ) (held : List Prepared)
    (outcome : Except Failure α) :
    Leaves backend (settle backend held outcome) fun result trail =>
      ∃ closing ending, trail = closing ++ [ending] ∧
        closing.map Event.call = held.map Call.closeStatement ∧
        Ended outcome ending result := by
  have hend (call : Call) :
      Leaves backend (do closePrepared backend held; ask backend call)
      fun answer trail => ∃ closing, trail = closing ++ [⟨call, answer⟩] ∧
        closing.map Event.call = held.map Call.closeStatement := by
    apply (closePrepared_leaves backend held).bind
    intro _ closing hclosing
    apply (ask_leaves backend call).mono
    rintro answer _ rfl
    exact ⟨closing, rfl, hclosing⟩
  cases outcome with
  | ok value =>
      apply (hend .commit).bind
      rintro (e | reply) _ ⟨closing, rfl, hclosing⟩
      · exact .pure ⟨closing, _, List.append_nil _, hclosing, .uncommitted⟩
      · exact .pure ⟨closing, _, List.append_nil _, hclosing, .committed⟩
  | error failure =>
      apply (hend .rollback).bind
      rintro (e | reply) _ ⟨closing, rfl, hclosing⟩
      · apply (warn_leaves backend _).bind_silent
        intro _
        exact .pure ⟨closing, _, List.append_nil _, hclosing, .rolledBack⟩
      · exact .pure ⟨closing, _, List.append_nil _, hclosing, .rolledBack⟩

/-- Beginning asks once. If the backend agrees, the transaction holds nothing
yet. -/
theorem enter_asks (backend : Backend σ) (before : Session σ) :
    let entered := (enter backend).run before
    match entered.1 with
    | .error e =>
        Extends backend before [⟨.beginTransaction, .error e⟩] entered.2
    | .ok _ => Extends backend before [⟨.beginTransaction, .ok ()⟩] entered.2 ∧
        entered.2.scope = .transaction [] := by
  intro entered
  rcases hanswer :
      backend.answer .beginTransaction before.database with ⟨answer, state⟩
  let begun : Session σ := { before with
    database := state,
    events := before.events ++ [⟨.beginTransaction, answer⟩] }
  have hentered : entered =
      match answer with
      | .error e => (.error e, begun)
      | .ok _ =>
          (.ok before.scope, { begun with scope := .transaction [] }) := by
    simp only [entered, enter, start, ask, StateT.run, bind, StateT.bind, pure,
      hanswer]
    cases answer <;> rfl
  rw [hentered]
  cases answer with
  | error e => exact ⟨rfl, .cons hanswer (.nil _)⟩
  | ok reply => exact ⟨⟨rfl, .cons hanswer (.nil _)⟩, rfl⟩

/-- The phases of a transaction. Calls go where they went before once the work
is done. -/
theorem around_run (backend : Backend σ) (working : Action σ (Except Failure α))
    (before : Session σ) :
    let entered := (enter backend).run before
    let worked := working.run entered.2
    (around backend working).run before =
      match entered.1 with
      | .error e => (.error (.plain (.driver e)), entered.2)
      | .ok outer => (settle backend worked.2.scope.prepared worked.1).run
          { worked.2 with scope := outer } := by
  intro entered worked
  change StateT.run (match entered.1 with | .error _ => _ | .ok _ => _)
    entered.2 = _
  cases entered.1 with
  | error e => rfl
  | ok outer => rfl

/-- A transaction is begun, works, closes what it has prepared, and ends: with a
commit if its work succeeded, else with a rollback. If it cannot begin, nothing
else is asked. Between its work and its end it holds exactly what was prepared
in it. -/
theorem around_encloses (mapper : Mapper σ) (work : Work α)
    (before : Session σ) :
    let working := work.run mapper fun _ => none
    let entered := (enter mapper.backend).run before
    let worked := working.run entered.2
    let ended := (around mapper.backend working).run before
    match entered.1 with
    | .error e => ended.1 = .error (.plain (.driver e)) ∧
        ended.2.events = before.events ++ [⟨.beginTransaction, .error e⟩]
    | .ok _ => ∃ during closing ending,
        worked.2.events =
          before.events ++ [⟨.beginTransaction, .ok ()⟩] ++ during ∧
        worked.2.scope.prepared = during.filterMap Event.prepared? ∧
        ended.2.events = worked.2.events ++ closing ++ [ending] ∧
        Enclosed during closing ∧ Ended worked.1 ending ended.1 := by
  intro working entered worked ended
  have hentered := enter_asks mapper.backend before
  have hended := around_run mapper.backend working before
  change ended = match entered.1 with | .error _ => _ | .ok _ => _ at hended
  rw [hended]
  change match entered.1 with | .error _ => _ | .ok _ => _ at hentered
  cases hbegun : entered.1 with
  | error e =>
      rw [hbegun] at hentered
      exact ⟨rfl, hentered.events⟩
  | ok outer =>
      rw [hbegun] at hentered
      obtain ⟨hbegin, hscope⟩ := hentered
      -- the ledger starts empty, whatever was open before the transaction
      have hempty : Unowned fun _ => none := by rintro _ _ ⟨⟩
      have hagrees : Agrees true (.empty entered.2.numbered) entered.2 :=
        ⟨rfl, hscope⟩
      obtain ⟨during, last, hextends, hlast, hrun, -⟩ :=
        work.run_keeps mapper hempty _ entered.2
          (Ledger.sound_empty true _) hagrees
      have hheld : worked.2.scope.prepared = last.statements := by
        rw [hlast.scope]
        rfl
      obtain ⟨_, hsettled, closing, ending, rfl, hclosing, hending⟩ :=
        settle_leaves mapper.backend worked.2.scope.prepared worked.1
          { worked.2 with scope := outer }
      rw [hheld] at hclosing
      refine ⟨during, closing, ending, ?_, hheld.trans hrun.prepares, ?_,
        hrun.enclosed hclosing, hending⟩
      · rw [hextends.events, hbegin.events]
      · rw [hsettled.events, List.append_assoc]

end NamedSql.Transaction
