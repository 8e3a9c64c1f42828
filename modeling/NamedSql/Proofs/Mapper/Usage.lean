import Mathlib.Algebra.GroupWithZero.Nat
import NamedSql.Proofs.Execute.Recording
import NamedSql.Proofs.Transaction.LifeCycle

/-!
The statistics of a mapper against the calls of its driver. A client has any
number of cursors and transactions in hand and goes on by the answers it gets.
Each of its calls of a statement is one use of it: an execution counts as often
as the driver has executed something successfully, a query once if it came as
far as the driver. Once the mapper is closed, the count that is kept for an id
is that of the uses, as long as the queue of the recorder had room for every
record.
-/

namespace NamedSql.Mapper

open Backend Session Recorder

variable {σ : Type}

/-- What a client may ask for. Transactions are kept in numbered places; a
request is made in one of them or on the mapper itself. A transaction around
some work is its start, the work, and the end that the work's outcome calls
for. -/
inductive Order where
  | call (within : Option Nat) (request : Transaction.Request)
  | start (place : Nat)
  | finish (place : Nat) (ending : Script.Ending)

/-- What a client has in hand: cursors, and open transactions with the
statements that they hold. -/
structure Desk where
  cursors : Transaction.Places
  transactions : Nat → Option (List Prepared)

namespace Desk

def empty : Desk :=
  ⟨fun _ => none, fun _ => none⟩

/-- Where calls go that are made in a transaction, if it is open, or on the
mapper. -/
def scope? (desk : Desk) : Option Nat → Option Scope
  | none => some .direct
  | some place => (desk.transactions place).map Scope.transaction

def keep (desk : Desk) (place : Nat) (held : Option (List Prepared)) : Desk :=
  { desk with transactions := Function.update desk.transactions place held }

end Desk

/-- Serves an order. In a transaction that is not open nothing is done. -/
def Order.serve (mapper : Mapper σ) (desk : Desk) :
    Order → Action σ (Script.Answer × Desk)
  | .call within request =>
      match desk.scope? within with
      | none => return (.several [], desk)
      | some scope => do
          let outer ← Session.swapScope scope
          let (answer, cursors) ← request.serve mapper desk.cursors
          let held ← Transaction.exit outer
          let desk := { desk with cursors }
          return (answer, within.elim desk fun place =>
            desk.keep place (some held))
  | .start place =>
      match desk.transactions place with
      | some _ => return (.several [], desk)
      | none => do
          match ← Transaction.start mapper.backend with
          | .error e => return (.single (.error (.plain (.driver e))), desk)
          | .ok _ => return (.single (.ok .done), desk.keep place (some []))
  | .finish place ending =>
      match desk.transactions place with
      | none => return (.several [], desk)
      | some held => do
          let result ← Script.finish mapper held ending
          return (.single result, desk.keep place none)

/-- A call of a statement, with what it asked the backend. -/
structure Use where
  id : String
  mode : CallMode
  events : List Event

/-- How often a use has run its statement: an execution for each success of the
driver, whether of a single call or of a row, in a first pass or a second; a
query if it came as far as asking the driver for anything, whatever the
answer. -/
def Use.times (use : Use) : Nat :=
  match use.mode with
  | .execute => applications use.events
  | .query => if use.events.isEmpty then 0 else 1

/-- How often statements of an id were run, in whichever case the id is
written. -/
def timesOf (id : String) (uses : List Use) : Nat :=
  ((uses.filter fun use => Text.toUpper use.id = Text.toUpper id).map
    Use.times).sum

/-- The statement that an order calls for, by its id, and how. Reading rows,
starting and ending transactions call for none. -/
def Order.calls? (mapper : Mapper σ) : Order → Option (String × CallMode)
  | .call _ (.execute name _) | .call _ (.bulk name _) =>
      (mapper.find name).toOption.map fun s => (s.id, .execute)
  | .call _ (.query _ name _) =>
      (mapper.find name).toOption.map fun s => (s.id, .query)
  | _ => none

/-- The use that an order with these events makes of a statement. -/
def Order.use? (mapper : Mapper σ) (events : List Event) (order : Order) :
    Option Use :=
  (order.calls? mapper).map fun (id, mode) => ⟨id, mode, events⟩

/-- A client asks for one thing after the other, and may decide by each answer
how to go on. -/
inductive Client where
  | done
  | ask (order : Order) (next : Script.Answer → Client)

/-- Serves a client and tells which uses of statements it has made. -/
def Client.run (mapper : Mapper σ) (desk : Desk) : Client → Action σ (List Use)
  | .done => return []
  | .ask order next => do
      let ((answer, desk), events) ← traced (order.serve mapper desk)
      let later ← (next answer).run mapper desk
      return (order.use? mapper events).toList ++ later

/-- The statistics that are kept once the mapper is closed. -/
def finalStatistics (mapper : Mapper σ) (session : Session σ) :
    List (String × Statistics) :=
  (Mapper.statistics.run (mapper.close.run session).2).1

/-- Each use is recorded under its id as often as it has run its statement, and
all that was run belongs to the uses. -/
structure Accounted (uses : List Use) (trail : List Event) (ids : List String) :
    Prop where
  ids : ids = uses.flatMap fun use => List.replicate use.times use.id
  runs : trail.filter Event.runs = (uses.flatMap Use.events).filter Event.runs

theorem Accounted.append {uses later : List Use} {left right : List Event}
    {ids others : List String} (hleft : Accounted uses left ids)
    (hright : Accounted later right others) :
    Accounted (uses ++ later) (left ++ right) (ids ++ others) where
  ids := by rw [hleft.ids, hright.ids, List.flatMap_append]
  runs := by
    rw [List.filter_append, hleft.runs, hright.runs, List.flatMap_append,
      List.filter_append]

theorem accounted_nil : Accounted [] [] [] :=
  ⟨rfl, rfl⟩

theorem accounted_of_quiet {trail : List Event} {ids : List String}
    (h : Quiet trail ids) : Accounted [] trail ids where
  ids := h.ids
  runs := by
    rw [List.flatMap_nil, List.filter_nil, List.filter_eq_nil_iff]
    intro event hevent
    simp [h.calls event hevent]

theorem accounted_of_use {use : Use} {ids : List String}
    (h : ids = List.replicate use.times use.id) :
    Accounted [use] use.events ids where
  ids := by rw [h, List.flatMap_singleton]
  runs := by rw [List.flatMap_singleton]

/-- What one use adds to the records of an id. -/
theorem countP_records (id : String) (uses : List Use) :
    ((uses.flatMap fun use => List.replicate use.times use.id).countP
      fun other => Text.toUpper other = Text.toUpper id) = timesOf id uses := by
  induction uses with
  | nil => rfl
  | cons use rest ih =>
      rw [List.flatMap_cons, List.countP_append, ih, List.countP_replicate,
        timesOf, timesOf, List.filter_cons]
      split
      · simp
      · simp

section

variable (mapper : Mapper σ)

theorem accounted_idle (order : Order) :
    Accounted (order.use? mapper []).toList [] [] := by
  rw [Order.use?]
  cases order.calls? mapper with
  | none => exact accounted_nil
  | some called =>
      obtain ⟨id, mode⟩ := called
      cases mode with
      | execute => exact accounted_of_use rfl
      | query => exact accounted_of_use rfl

/-- The order is accounted for by the use that it makes. -/
def Settles (order : Order) (trail : List Event) (ids : List String) : Prop :=
  Accounted (order.use? mapper trail).toList trail ids

variable (within : Option Nat)

theorem execute_accounted (name : String) (parameters : List Param) :
    Records (mapper.execute name parameters) fun _ =>
      Settles mapper (.call within (.execute name parameters)) := by
  rw [Mapper.execute]
  cases hfind : mapper.find name with
  | error failure => exact .pure (accounted_idle mapper _)
  | ok s =>
      apply (execute_counted mapper.dialect s parameters).mono
      intro _ trail ids hcounted
      rw [Settles, Order.use?, Order.calls?, hfind]
      exact accounted_of_use hcounted

theorem openCursor_accounted (place : Nat) (name : String)
    (parameters : List Param) :
    Records (mapper.openCursor name parameters) fun _ =>
      Settles mapper (.call within (.query place name parameters)) := by
  rw [Mapper.openCursor]
  cases hfind : mapper.find name with
  | error failure => exact .pure (accounted_idle mapper _)
  | ok s =>
      apply (openCursor_counted mapper.dialect _ s parameters).mono
      intro _ trail ids hcounted
      rw [Settles, Order.use?, Order.calls?, hfind]
      exact accounted_of_use hcounted

theorem bulk_accounted (name : String) (steps : List Script.BulkStep) :
    Records (Script.runTask mapper (.bulk name steps)) fun _ =>
      Settles mapper (.call within (.bulk name steps)) := by
  rw [Script.runTask]
  cases hbulk : mapper.bulk name with
  | error failure => exact .pure (accounted_idle mapper _)
  | ok bulk =>
      obtain ⟨s, hfind, hstatement⟩ := Fallible.bind_eq_ok_iff.mp hbulk
      have hsame : bulk.statement = s := by
        rw [(Bulk.ofStatement_eq_ok_iff.mp hstatement).2]
      have hsteps := Script.runBulkSteps_counted mapper hsame steps
      apply (hsteps.mono fun _ trail ids hcounted => ?_).then_idle
      · exact fun results => .pure ⟨rfl, rfl⟩
      · rw [Settles, Order.use?, Order.calls?, hfind]
        exact accounted_of_use hcounted

/-- Reading rows calls for no statement, and runs none. -/
theorem settles_of_quiet {order : Order} (hcalls : order.calls? mapper = none)
    {trail : List Event} {ids : List String} (h : Quiet trail ids) :
    Settles mapper order trail ids := by
  rw [Settles, Order.use?, hcalls]
  exact accounted_of_quiet h

theorem request_accounted (places : Transaction.Places)
    (request : Transaction.Request) :
    Records (request.serve mapper places) fun _ =>
      Settles mapper (.call within request) := by
  cases request with
  | execute name parameters =>
      apply ((execute_accounted mapper within name parameters).then_idle
        _).then_idle
      · exact fun answer => .pure ⟨rfl, rfl⟩
      · exact fun outcome => .pure ⟨rfl, rfl⟩
  | bulk name steps =>
      apply (bulk_accounted mapper within name steps).then_idle
      exact fun answer => .pure ⟨rfl, rfl⟩
  | query place name parameters =>
      apply (openCursor_accounted mapper within place name parameters).then_idle
      rintro (failure | cursor)
      · exact .pure ⟨rfl, rfl⟩
      · exact .pure ⟨rfl, rfl⟩
  | read place step =>
      rw [Transaction.Request.serve]
      cases places place with
      | none => exact .pure accounted_nil
      | some cursor =>
          apply ((Script.runCursorStep_quiet cursor step).mono fun _ _ _ =>
            settles_of_quiet mapper rfl).then_idle
          exact fun result => .pure ⟨rfl, rfl⟩
  | readRow place step =>
      rw [Transaction.Request.serve]
      cases places place with
      | none => exact .pure accounted_nil
      | some cursor =>
          apply ((Script.runRowStep_quiet cursor step).mono fun _ _ _ =>
            settles_of_quiet mapper rfl).then_idle
          exact fun result => .pure ⟨rfl, rfl⟩

theorem serve_accounted (desk : Desk) (order : Order) :
    Records (order.serve mapper desk) fun _ => Settles mapper order := by
  cases order with
  | call within request =>
      rw [Order.serve]
      cases desk.scope? within with
      | none => exact .pure (accounted_idle mapper _)
      | some scope =>
          apply (swapScope_records scope).bind_idle
          intro outer
          apply (request_accounted mapper within desk.cursors request).then_idle
          rintro ⟨answer, cursors⟩
          apply (Transaction.exit_records outer).then_idle
          exact fun held => .pure ⟨rfl, rfl⟩
  | start place =>
      rw [Order.serve]
      cases desk.transactions place with
      | some held => exact .pure accounted_nil
      | none =>
          apply ((ask_quiet mapper.backend .beginTransaction rfl).mono
            fun _ _ _ => settles_of_quiet mapper rfl).then_idle
          rintro (e | reply)
          · exact .pure ⟨rfl, rfl⟩
          · exact .pure ⟨rfl, rfl⟩
  | finish place ending =>
      rw [Order.serve]
      cases desk.transactions place with
      | none => exact .pure accounted_nil
      | some held =>
          apply ((Script.finish_quiet mapper held ending).mono fun _ _ _ =>
            settles_of_quiet mapper rfl).then_idle
          exact fun result => .pure ⟨rfl, rfl⟩

end

theorem run_accounted (mapper : Mapper σ) (desk : Desk) (client : Client) :
    Records (client.run mapper desk) Accounted := by
  induction client generalizing desk with
  | done => exact .pure accounted_nil
  | ask order next ih =>
      apply (serve_accounted mapper desk order).traced.bind
      rintro ⟨⟨answer, desk⟩, events⟩ trail ids ⟨rfl, hserved⟩
      apply (ih answer desk).bind
      intro later right others hlater
      refine .pure ?_
      simpa using hserved.append hlater

/-- A lossless recorder that has taken the records of some uses keeps how often
they ran. -/
theorem countOf_finalStatistics (mapper : Mapper σ) (session : Session σ)
    (log : List LogLine) (size : Nat) {turns : List Turn}
    (hlossless : (ofSize size).Lossless turns) {uses : List Use}
    (hrecords : (turns.filterMap Turn.execution?).map Execution.id =
      uses.flatMap fun use => List.replicate use.times use.id) (id : String) :
    countOf id (mapper.finalStatistics
        (session.watched log ((ofSize size).after turns))) =
      timesOf id uses := by
  have hactive := active_ofSize size
  calc
    countOf id (mapper.finalStatistics
        (session.watched log ((ofSize size).after turns)))
      = ((ofSize size).after turns).known id :=
          countOf_shutdown (hactive.after turns) id
    _ = ((turns.filterMap Turn.execution?).map Execution.id).countP fun other =>
          Text.toUpper other = Text.toUpper id := by
        rw [known_after hactive hlossless, known_ofSize, Nat.zero_add,
          List.countP_map]
        rfl
    _ = timesOf id uses := by rw [hrecords, countP_records]

/-- Whatever a client does and the driver answers, the count that is kept for an
id when the mapper is closed is the number of successful executions of its
statements and of its queries that came as far as the driver, provided that no
record was lost. The consumer may take the records at any time: the run hands
the same ones to every recorder, so only their turns with the consumer
matter. -/
theorem statistics_agree_with_calls (mapper : Mapper σ)
    (recording : mapper.settings.recordExecutions = true) {client : Client}
    {database : σ} {uses : List Use} {served : Session σ}
    (ran : (client.run mapper .empty).run (mapper.session database) =
      (uses, served)) :
    served.events.filter Event.runs =
      (uses.flatMap Use.events).filter Event.runs ∧
    (lossWarning ∉ served.log →
      ∀ id, countOf id (mapper.finalStatistics served) = timesOf id uses) ∧
    ∃ records,
      Watched (client.run mapper .empty) (mapper.session database) uses served
          records ∧
      ∀ turns, turns.filterMap Turn.execution? = records →
        (ofSize mapper.settings.queueSize).Lossless turns →
        ∀ id, countOf id (mapper.finalStatistics (served.watched served.log
          ((ofSize mapper.settings.queueSize).after turns))) =
            timesOf id uses := by
  let recorder := ofSize mapper.settings.queueSize
  have hstart : (mapper.session database).watched [] recorder =
      mapper.session database := by
    simp only [Mapper.session, Session.start, Mapper.monitor, recording,
      watched]
    rfl
  obtain ⟨value, after, trail, records, hwatched, hevents, haccounted⟩ :=
    run_accounted mapper .empty client (mapper.session database)
  obtain ⟨lines, hrun, hlossless⟩ := hwatched [] recorder
  rw [hstart, ran] at hrun
  obtain ⟨rfl, rfl⟩ := Prod.mk.inj hrun
  refine ⟨?_, ?_, records, hwatched, ?_⟩
  · exact (congrArg (List.filter Event.runs) hevents).trans haccounted.runs
  · intro hlog id
    have hmap :
        (records.map Turn.record).filterMap Turn.execution? = records := by
      rw [List.filterMap_map]
      exact List.filterMap_some
    apply countOf_finalStatistics mapper after _ _ (hlossless hlog)
    rw [hmap]
    exact haccounted.ids
  · rintro turns rfl hturns id
    exact countOf_finalStatistics mapper after _ _ hturns haccounted.ids id

/-- The bulk in the transaction loses the connection at its second row and goes
on in a second pass; a single insert fails, and so does the first query. The
query without its parameter never gets to the driver. -/
theorem statistics_agree_with_calls_despite_faults :
    let add : Statement :=
      ⟨"add", .insert, "insert into t values (:a)", [], [⟨"a", 23, .single⟩],
        "insert into t values (?)", "insert into t values ($1)"⟩
    let read : Statement :=
      ⟨"Read", .select, "select a from t where a = :a", [],
        [⟨"a", 27, .single⟩], "select a from t where a = ?",
        "select a from t where a = $1"⟩
    let script : Backend.Script :=
      ⟨[], [⟨.exec, 2, .badConnection⟩, ⟨.exec, 4, .failed "full"⟩,
        ⟨.query, 1, .failed "gone"⟩], [], false, 1⟩
    let mapper : Mapper Scripted :=
      ⟨⟨"pgsql", none, none, none, none, none, false, 0, 0, none,
        .exact, true, 4, []⟩, script.backend, .dollar,
        ⟨[("ADD", add), ("READ", read)]⟩⟩
    let text (letters : String) : Param := .scalar (.text letters)
    let orders : List Order := [.start 0,
      .call (some 0) (.bulk "add"
        [.add [.sequence [text "x"], .sequence [text "y"]], .execute]),
      .call none (.execute "ADD" [text "z"]),
      .call none (.query 0 "read" [text "x"]),
      .call (some 0) (.query 0 "READ" [text "y"]),
      .call none (.query 1 "read" [.mapping []]),
      .call (some 0) (.read 0 .close), .finish 0 .commit]
    let client : Client :=
      orders.foldr (fun order later => .ask order fun _ => later) .done
    let start := mapper.session script.start
    ∃ uses served, (client.run mapper .empty).run start = (uses, served) ∧
      mapper.settings.recordExecutions = true ∧ lossWarning ∉ served.log ∧
      timesOf "add" uses = 2 ∧ timesOf "read" uses = 2 ∧
      countOf "Add" (mapper.finalStatistics served) = timesOf "Add" uses ∧
      countOf "read" (mapper.finalStatistics served) = timesOf "read" uses := by
  intro add read script mapper text orders client start
  have recording : mapper.settings.recordExecutions = true := rfl
  have hrun : lossWarning ∉ ((client.run mapper .empty).run start).2.log ∧
      timesOf "add" ((client.run mapper .empty).run start).1 = 2 ∧
      timesOf "read" ((client.run mapper .empty).run start).1 = 2 := by
    decide +kernel
  rcases ran : (client.run mapper .empty).run start with ⟨uses, served⟩
  rw [ran] at hrun
  obtain ⟨hlog, hadd, hread⟩ := hrun
  have hagree := (statistics_agree_with_calls mapper recording ran).2.1 hlog
  exact ⟨uses, served, rfl, recording, hlog, hadd, hread, hagree "Add",
    hagree "read"⟩

end NamedSql.Mapper
