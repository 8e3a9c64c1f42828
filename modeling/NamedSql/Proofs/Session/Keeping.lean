import NamedSql.Proofs.Backend.Ledger
import NamedSql.Proofs.Session.Trail

/-!
Sessions that keep a ledger. A ledger agrees with a session if it gives out the
same next number and holds the statements that the session's transaction holds.
An action keeps a ledger if its trail can be entered, whatever the backend
answers, and the ledger then agrees with the session again. The rules below let
a proof go through an action call by call; only the rules look at the session.
-/

namespace NamedSql.Session

open Backend

variable {σ α β : Type}

/-- The ledger knows what the session will number next and what its transaction
holds. Outside transactions a session holds nothing, whatever is open. -/
structure Agrees (inTransaction : Bool) (ledger : Ledger)
    (session : Session σ) : Prop where
  numbered : session.numbered = ledger.next
  scope : session.scope = if inTransaction then .transaction ledger.statements
  else .direct

/-- The trail of the action is entered into the ledger, and the value fits what
the ledger then is. -/
def Keeps (backend : Backend σ) (inTransaction : Bool) (action : Action σ α)
    (ledger : Ledger) (fits : α → Ledger → Prop) : Prop :=
  ∀ before, ledger.Sound inTransaction → Agrees inTransaction ledger before →
    ∃ trail last, Extends backend before trail (action.run before).2 ∧
      Agrees inTransaction last (action.run before).2 ∧
      ledger.Run inTransaction trail last ∧ fits (action.run before).1 last

namespace Keeps

variable {backend : Backend σ} {inTransaction : Bool} {ledger : Ledger}
  {fits : α → Ledger → Prop}

theorem pure {value : α} (h : fits value ledger) :
    Keeps backend inTransaction (Pure.pure value : Action σ α) ledger fits :=
  fun _ _ hagrees => ⟨[], ledger, .of_silent rfl rfl, hagrees, .nil ledger, h⟩

theorem bind {action : Action σ β} {next : β → Action σ α}
    {start : β → Ledger → Prop}
    (hstart : Keeps backend inTransaction action ledger start)
    (hnext : ∀ value middle, start value middle →
      Keeps backend inTransaction (next value) middle fits) :
    Keeps backend inTransaction (action >>= next) ledger fits := by
  intro before hsound hagrees
  obtain ⟨left, middle, hleft, hmiddle, hrun, hvalue⟩ :=
    hstart before hsound hagrees
  obtain ⟨right, last, hright, hlast, hrest, hfits⟩ :=
    hnext _ middle hvalue _ (hrun.sound hsound) hmiddle
  exact ⟨left ++ right, last, hleft.trans hright, hlast,
    hrun.append hrest, hfits⟩

theorem mono {action : Action σ α} {looser : α → Ledger → Prop}
    (h : Keeps backend inTransaction action ledger fits)
    (himp : ∀ value last, fits value last → looser value last) :
    Keeps backend inTransaction action ledger looser := by
  intro before hsound hagrees
  obtain ⟨trail, last, hextends, hlast, hrun, hfits⟩ := h before hsound hagrees
  exact ⟨trail, last, hextends, hlast, hrun, himp _ last hfits⟩

theorem of_sound {action : Action σ α}
    (h : ledger.Sound inTransaction →
      Keeps backend inTransaction action ledger fits) :
    Keeps backend inTransaction action ledger fits :=
  fun before hsound => h hsound before hsound

theorem bind_aside {action : Action σ β} {next : β → Action σ α}
    (haside : Aside action)
    (hnext : ∀ value, Keeps backend inTransaction (next value) ledger fits) :
    Keeps backend inTransaction (action >>= next) ledger fits := by
  intro before hsound hagrees
  have hagrees : Agrees inTransaction ledger (action.run before).2 :=
    ⟨(haside.numbered before).trans hagrees.numbered,
      (haside.scope before).trans hagrees.scope⟩
  obtain ⟨trail, last, hextends, hrest⟩ :=
    hnext (action.run before).1 _ hsound hagrees
  exact ⟨trail, last,
    (Extends.of_silent (haside.events before) (haside.database before)).trans
      hextends, hrest⟩

/-- A call that gives out no number and leaves the statements of a transaction
alone. -/
theorem ask {call : Call} {last : Ledger}
    (hstep : ∀ answer, ledger.Step inTransaction ⟨call, answer⟩ last)
    (hnext : last.next = ledger.next)
    (hstatements : inTransaction = true → last.statements = ledger.statements) :
    Keeps backend inTransaction (Session.ask backend call) ledger fun _ found =>
      found = last := by
  intro before _ hagrees
  refine ⟨_, last, ⟨rfl, .cons rfl (.nil _)⟩,
    ⟨hagrees.numbered.trans hnext.symm, ?_⟩, (hstep _).run, rfl⟩
  refine hagrees.scope.trans ?_
  split
  · next hinside => rw [hstatements hinside]
  · rfl

/-- A call that is given the next number, and leaves the statements of a
transaction alone. -/
theorem ask_numbered {call : Nat → Call}
    {next : (number : Nat) →
      Except DriverError (call number).Reply → Action σ α}
    (last : Except DriverError (call ledger.next).Reply → Ledger)
    (hstep : ∀ answer,
      ledger.Step inTransaction ⟨call ledger.next, answer⟩ (last answer))
    (hnumber : ∀ answer, (last answer).next = ledger.next + 1)
    (hstatements : ∀ answer, (last answer).statements = ledger.statements)
    (hnext : ∀ answer,
      Keeps backend inTransaction (next ledger.next answer)
      (last answer) fits) :
    Keeps backend inTransaction
      (nextNumber >>= fun number =>
        Session.ask backend (call number) >>= next number) ledger
      fits := by
  intro before hsound hagrees
  obtain ⟨number, statements, cursors⟩ := ledger
  obtain rfl : before.numbered = number := hagrees.numbered
  let answered := backend.answer (call before.numbered) before.database
  let asked : Session σ := { before with
    database := answered.2, numbered := before.numbered + 1
    events := before.events ++ [⟨call before.numbered, answered.1⟩] }
  have hasked :
      Extends backend before [⟨call before.numbered, answered.1⟩] asked :=
    ⟨rfl, .cons rfl (.nil _)⟩
  have hagrees : Agrees inTransaction (last answered.1) asked :=
    ⟨(hnumber _).symm, by rw [hstatements]; exact hagrees.scope⟩
  obtain ⟨trail, final, hextends, hfinal, hrun, hfits⟩ :=
    hnext answered.1 asked ((hstep _).sound hsound) hagrees
  exact ⟨_ :: trail, final, hasked.trans hextends, hfinal,
    .cons (hstep _) hrun, hfits⟩

end Keeps

variable {backend : Backend σ} {inTransaction : Bool}
  {first last ledger : Ledger}

/-- Outside transactions, what was opened is closed again. A transaction keeps
its statements, and of its cursors nothing is said. -/
structure Returned (inTransaction : Bool) (first last : Ledger) : Prop where
  cursors : inTransaction = false → last.cursors = first.cursors
  statements : inTransaction = false → last.statements = first.statements

/-- A statement was handed out. Outside transactions it is a new one, of which
the caller has to dispose. -/
structure Lent (inTransaction : Bool) (first : Ledger) (statement : Prepared)
    (last : Ledger) : Prop where
  held : statement ∈ last.statements
  cursors : inTransaction = false → last.cursors = first.cursors
  fresh : inTransaction = false → statement ∉ first.statements
  statements :
      inTransaction = false → last.statements = first.statements ++ [statement]

/-- A cursor is open, and closing it and then the statement that its reader owns
returns everything that was opened. -/
structure Live (inTransaction : Bool) (first : Ledger) (entry : OpenCursor)
    (owned : Option Prepared) (last : Ledger) : Prop where
  isOpen : inTransaction = false → entry ∈ last.cursors
  plain : owned = none → Returned inTransaction first (last.closeCursor entry)
  owning : ∀ statement, owned = some statement → inTransaction = false ∧
    Lent inTransaction first statement (last.closeCursor entry)

namespace Returned

theorem refl (inTransaction : Bool) (ledger : Ledger) :
    Returned inTransaction ledger ledger :=
  ⟨fun _ => rfl, fun _ => rfl⟩

theorem skip (inTransaction : Bool) (ledger : Ledger) :
    Returned inTransaction ledger ledger.skip :=
  ⟨fun _ => rfl, fun _ => rfl⟩

theorem inside (first last : Ledger) : Returned true first last :=
  ⟨by rintro ⟨⟩, by rintro ⟨⟩⟩

theorem trans {middle : Ledger} (hleft : Returned inTransaction first middle)
    (hright : Returned inTransaction middle last) :
    Returned inTransaction first last :=
  ⟨fun houtside => (hright.cursors houtside).trans (hleft.cursors houtside),
    fun houtside =>
      (hright.statements houtside).trans (hleft.statements houtside)⟩

end Returned

theorem prepareNew_asks (backend : Backend σ) (marked : Bool) (sql : String)
    (before : Session σ) :
    ∃ answer,
      Extends backend before [⟨.prepare ⟨before.numbered, sql, marked⟩, answer⟩]
        ((prepareNew backend marked sql).run before).2 ∧
      ((prepareNew backend marked sql).run before).2.numbered =
        before.numbered + 1 ∧
      ((prepareNew backend marked sql).run before).2.scope = before.scope ∧
      ((prepareNew backend marked sql).run before).1 =
        answer.map fun _ => ⟨before.numbered, sql, marked⟩ := by
  let statement : Prepared := ⟨before.numbered, sql, marked⟩
  rcases hanswer :
      backend.answer (.prepare statement) before.database with ⟨answer, state⟩
  let asked : Session σ := { before with
    database := state, numbered := before.numbered + 1
    events := before.events ++ [⟨.prepare statement, answer⟩] }
  have hextends : Extends backend before [⟨.prepare statement, answer⟩] asked :=
    ⟨rfl, .cons hanswer (.nil _)⟩
  have hrun : (prepareNew backend marked sql).run before =
      (answer.map fun _ => statement, asked) := by
    simp only [prepareNew, nextNumber, ask, StateT.run, bind, StateT.bind, pure,
      hanswer, statement, asked]
    cases answer <;> rfl
  rw [hrun]
  exact ⟨answer, hextends, rfl, rfl, rfl⟩

/-- Preparing a new statement enters it, or skips its number. The scope is left
for the caller to change. -/
theorem prepareNew_enters (backend : Backend σ) (inTransaction : Bool)
    (sql : String) {before : Session σ}
    (hnumbered : before.numbered = ledger.next)
    (unknown : inTransaction = true → ∀ held ∈ ledger.statements,
      held.sql ≠ sql) :
    ∃ trail last, Extends backend before trail
        ((prepareNew backend inTransaction sql).run before).2 ∧
      ledger.Run inTransaction trail last ∧
      ((prepareNew backend inTransaction sql).run before).2.numbered =
        last.next ∧
      ((prepareNew backend inTransaction sql).run before).2.scope =
        before.scope ∧
      match ((prepareNew backend inTransaction sql).run before).1 with
      | .error _ => last = ledger.skip
      | .ok statement => statement = ⟨ledger.next, sql, inTransaction⟩ ∧
          last = ledger.hold statement := by
  obtain ⟨answer, hextends, hcount, hscope, hvalue⟩ :=
    prepareNew_asks backend inTransaction sql before
  rw [hnumbered] at hextends hcount hvalue
  rw [hvalue]
  cases answer with
  | error e =>
      exact ⟨_, ledger.skip, hextends, (Ledger.Step.unprepared unknown).run,
        hcount, hscope, rfl⟩
  | ok reply =>
      exact ⟨_, _, hextends, (Ledger.Step.prepared unknown).run, hcount, hscope,
        rfl, rfl⟩

/-- A new statement is lent to the caller. -/
theorem lent_hold (hsound : ledger.Sound inTransaction) (sql : String) :
    Lent inTransaction ledger ⟨ledger.next, sql, inTransaction⟩
      (ledger.hold ⟨ledger.next, sql, inTransaction⟩) where
  held := List.mem_append_right _ List.mem_cons_self
  cursors _ := rfl
  fresh _ hmem := Nat.lt_irrefl _ (hsound.statements _ hmem)
  statements _ := rfl

/-- What preparing does with a session, by what the scope holds. -/
theorem prepare_run (backend : Backend σ) (sql : String) (before : Session σ) :
    (prepare backend sql).run before =
      match before.scope with
      | .direct => (prepareNew backend false sql).run before
      | .transaction held =>
          match held.find? (·.sql == sql) with
          | some statement => (.ok statement, before)
          | none =>
              match (prepareNew backend true sql).run before with
              | (.error e, after) => (.error e, after)
              | (.ok statement, after) =>
                  (.ok statement,
                      { after with
                        scope := .transaction (held ++ [statement]) }) := by
  rw [prepare, StateT.run_bind]
  change StateT.run (match before.scope with
    | .direct => _
    | .transaction _ => _) before = _
  cases before.scope with
  | direct => rfl
  | transaction held =>
      simp only
      cases held.find? (·.sql == sql) with
      | some statement => rfl
      | none =>
          simp only
          rw [StateT.run_bind]
          change StateT.run
              (match ((prepareNew backend true sql).run before).1 with
            | .error _ => _
            | .ok _ => _) ((prepareNew backend true sql).run before).2 = _
          rcases (prepareNew backend true sql).run
            before with ⟨e | statement, after⟩
          · rfl
          · rfl

theorem prepare_keeps (backend : Backend σ) (inTransaction : Bool)
    (sql : String) (ledger : Ledger) :
    Keeps backend inTransaction (prepare backend sql) ledger fun result last =>
      match result with
      | .error _ => Returned inTransaction ledger last
      | .ok statement => Lent inTransaction ledger statement last := by
  intro before hsound ⟨hnumbered, hscope⟩
  rw [prepare_run, hscope]
  cases inTransaction with
  | false =>
      obtain ⟨trail, last, hextends, hrun, hcount, hkept, hvalue⟩ :=
        prepareNew_enters backend false sql hnumbered (by rintro ⟨⟩)
      refine ⟨trail, last, hextends, ⟨hcount, hkept.trans hscope⟩, hrun, ?_⟩
      change match ((prepareNew backend false sql).run before).1 with
        | .error _ => _ | .ok _ => _
      generalize (prepareNew backend false sql).run before = done at *
      obtain ⟨e | statement, after⟩ := done
      · obtain rfl := hvalue
        exact .skip false ledger
      · obtain ⟨rfl, rfl⟩ := hvalue
        exact lent_hold hsound sql
  | true =>
      simp only [if_true]
      cases hfind : ledger.statements.find? (·.sql == sql) with
      | some statement =>
          exact ⟨[], ledger, .of_silent rfl rfl, ⟨hnumbered, hscope⟩,
            .nil ledger, List.mem_of_find?_eq_some hfind, by rintro ⟨⟩,
            by rintro ⟨⟩, by rintro ⟨⟩⟩
      | none =>
          have unknown :
              true = true → ∀ held ∈ ledger.statements, held.sql ≠ sql := by
            intro _ held hmem
            simpa using List.find?_eq_none.mp hfind held hmem
          obtain ⟨trail, last, hextends, hrun, hcount, hkept, hvalue⟩ :=
            prepareNew_enters backend true sql hnumbered unknown
          generalize (prepareNew backend true sql).run before = done at *
          obtain ⟨e | statement, after⟩ := done
          · obtain rfl := hvalue
            exact ⟨trail, _, hextends, ⟨hcount, hkept.trans hscope⟩, hrun,
              .skip true ledger⟩
          · obtain ⟨rfl, rfl⟩ := hvalue
            -- the transaction holds the new statement from here on
            exact ⟨trail, _, ⟨hextends.events, hextends.answers⟩,
              ⟨hcount, rfl⟩, hrun, lent_hold hsound sql⟩

theorem Lent.unread {statement : Prepared}
    (hlent : Lent false first statement last) (hsound : first.Sound false) :
    ∀ cursor ∈ last.cursors, cursor.statement ≠ some statement := by
  intro cursor hmem hreads
  rw [hlent.cursors rfl] at hmem
  exact hlent.fresh rfl (hsound.reads cursor hmem statement hreads)

theorem Lent.returned {statement : Prepared}
    (hlent : Lent false first statement last) :
    Returned false first (last.release statement) := by
  refine ⟨hlent.cursors, fun houtside => ?_⟩
  rw [Ledger.release, hlent.statements houtside,
    List.erase_append_right _ (hlent.fresh houtside), List.erase_cons_head,
    List.append_nil]

theorem closeStatement_keeps {statement : Prepared}
    (hlent : Lent false first statement ledger) (hsound : first.Sound false) :
    Keeps backend false (ask backend (.closeStatement statement)) ledger
      fun _ last => Returned false first last := by
  refine Keeps.mono
    (Keeps.ask (fun _ => .closedStatement rfl hlent.held (hlent.unread hsound))
    rfl (by rintro ⟨⟩)) ?_
  rintro _ _ rfl
  exact hlent.returned

theorem release_keeps {statement : Prepared}
    (hlent : Lent inTransaction first statement ledger)
    (hsound : first.Sound inTransaction) :
    Keeps backend inTransaction (release backend statement) ledger fun _ last =>
      Returned inTransaction first last := by
  refine .of_sound fun hledger => ?_
  have hmarked := hledger.marked statement hlent.held
  rw [release]
  cases inTransaction with
  | false =>
      rw [hmarked]
      exact closeStatement_keeps hlent hsound
  | true =>
      rw [hmarked]
      exact .pure (.inside first ledger)

theorem releaseOrWarn_keeps {statement : Prepared} (warning : String)
    (hlent : Lent inTransaction first statement ledger)
    (hsound : first.Sound inTransaction) :
    Keeps backend inTransaction (releaseOrWarn backend statement warning) ledger
      fun _ last => Returned inTransaction first last := by
  apply (release_keeps hlent hsound).bind
  rintro (e | reply) last hreturned
  · exact .bind_aside (warn_aside warning) fun _ => .pure hreturned
  · exact .pure hreturned

/-- Closing a cursor that was just opened only leaves its number given out. -/
theorem closeCursor_openCursor (hsound : ledger.Sound inTransaction)
    (statement : Option Prepared) :
    (ledger.openCursor statement).closeCursor ⟨ledger.next, statement⟩ =
      ledger.skip := by
  have hfresh : ⟨ledger.next, statement⟩ ∉ ledger.cursors :=
    fun hmem => Nat.lt_irrefl _ (hsound.cursors _ hmem)
  rw [Ledger.closeCursor, Ledger.openCursor, List.erase_append_right _ hfresh,
    List.erase_cons_head, List.append_nil]
  rfl

theorem live_openCursor (hsound : ledger.Sound inTransaction)
    {read owned : Option Prepared}
    (plain : owned = none → Returned inTransaction first ledger.skip)
    (owning : ∀ statement, owned = some statement →
      inTransaction = false ∧ Lent inTransaction first statement ledger.skip) :
    Live inTransaction first ⟨ledger.next, read⟩ owned
      (ledger.openCursor read) := by
  refine ⟨fun _ => List.mem_append_right _ List.mem_cons_self, ?_, ?_⟩
  · rw [closeCursor_openCursor hsound]
    exact plain
  · rw [closeCursor_openCursor hsound]
    exact owning

/-- If the query fails, the statement is still to be given back. -/
theorem queryPrepared_keeps {statement : Prepared} (arguments : List Value)
    (hlent : Lent inTransaction first statement ledger) :
    Keeps backend inTransaction
      (queryPrepared backend statement arguments) ledger fun result last =>
        match result with
        | .error _ => Lent inTransaction first statement last
        | .ok opened =>
            ∃ read,
              Live inTransaction first ⟨opened.cursor, read⟩ opened.statement
              last := by
  refine .of_sound fun hledger => ?_
  have hmarked := hledger.marked statement hlent.held
  have hskip : Lent inTransaction first statement ledger.skip :=
    ⟨hlent.held, hlent.cursors, hlent.fresh, hlent.statements⟩
  refine .ask_numbered (ledger.afterQuery (some statement)) ?_
    (ledger.next_afterQuery (some statement))
    (ledger.statements_afterQuery (some statement)) ?_
  · rintro (e | result)
    · exact .unqueriedPrepared hlent.held
    · exact .queriedPrepared hlent.held
  · rintro (e | result)
    · exact .pure hskip
    · refine .pure ⟨some statement, live_openCursor hledger ?_ ?_⟩
      · rw [hmarked]
        cases inTransaction with
        | false => rintro ⟨⟩
        | true => exact fun _ => .inside first ledger.skip
      · rw [hmarked]
        cases inTransaction with
        | false =>
            rintro _ ⟨⟩
            exact ⟨rfl, hskip⟩
        | true => rintro _ ⟨⟩

/-- Giving out a number does not change where calls go. -/
theorem inTransaction_before_nextNumber (next : Nat → Bool → Action σ α) :
    (nextNumber >>= fun number => Session.inTransaction >>= next number) =
      (Session.inTransaction >>= fun marked => nextNumber >>= fun number =>
        next number marked) :=
  rfl

theorem query_keeps (backend : Backend σ) (inTransaction : Bool) (sql : String)
    (arguments : List Value) (ledger : Ledger) :
    Keeps backend inTransaction (query backend sql arguments) ledger
        fun result last =>
      match result with
      | .error _ => Returned inTransaction ledger last
      | .ok opened =>
          ∃ read,
            Live inTransaction ledger ⟨opened.cursor, read⟩ opened.statement
            last := by
  refine .of_sound fun hsound => ?_
  rw [query]
  split
  · -- without arguments nothing is prepared
    rw [inTransaction_before_nextNumber]
    apply Keeps.bind_aside inTransaction_aside
    intro marked
    refine .ask_numbered (ledger.afterQuery none) ?_
      (ledger.next_afterQuery none) (ledger.statements_afterQuery none) ?_
    · rintro (e | result)
      · exact .unqueried
      · exact .queried
    · rintro (e | result)
      · exact .pure (.skip inTransaction ledger)
      · refine .pure ⟨none,
          live_openCursor hsound (fun _ => .skip inTransaction ledger) ?_⟩
        rintro _ ⟨⟩
  · apply (prepare_keeps backend inTransaction sql ledger).bind
    rintro (e | statement) middle hprepared
    · exact .pure hprepared
    · apply (queryPrepared_keeps arguments hprepared).bind
      rintro (e | opened) last hqueried
      · apply (releaseOrWarn_keeps _ hqueried hsound).bind
        intro _ final hreturned
        exact .pure hreturned
      · exact .pure hqueried

end NamedSql.Session
