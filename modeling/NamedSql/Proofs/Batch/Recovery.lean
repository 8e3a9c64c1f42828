import NamedSql.Proofs.Backend.Steady
import NamedSql.Proofs.Batch.Report

/-!
Losing the connection once goes unnoticed. A steady backend serves the rows of a
batch one after the other, and what it replies to a row depends on the row and
on how many rows came before. So the rows behind a lost connection get the
outcomes that they would have got without it, and a batch that succeeds
undisturbed succeeds with the same tally when the connection is lost once,
wherever.
-/

namespace NamedSql.Batch

open Backend

variable {σ : Type}

/-- The backend serves all the rows, `count` executions having succeeded before:
each row binds, is executed, and has the id that it needs. -/
inductive Served (s : Statement) (reply : Reply) :
    Nat → List Param → List Outcome → Prop where
  | nil (count : Nat) : Served s reply count [] []
  | cons {count : Nat} {row : Param} {rest : List Param}
      {arguments : List Value} {outcome : Outcome} {id : Option Int}
      {others : List Outcome} (bound : s.bindRow row = .ok arguments)
      (replied : reply s.resolved arguments count = .ok outcome)
      (identified : insertId s outcome = .ok id)
      (served : Served s reply (count + 1) rest others) :
      Served s reply count (row :: rest) (outcome :: others)

/-- Each row has one outcome. -/
theorem Served.unique {s : Statement} {reply : Reply} {count : Nat}
    {rows : List Param} {first second : List Outcome}
    (hfirst : Served s reply count rows first)
    (hsecond : Served s reply count rows second) : first = second := by
  induction hfirst generalizing second with
  | nil count =>
      cases hsecond
      rfl
  | cons bound replied _ _ ih =>
      cases hsecond with
      | cons bound' replied' _ served' =>
          obtain rfl := Except.ok.inj (bound.symm.trans bound')
          obtain rfl := Except.ok.inj (replied.symm.trans replied')
          rw [ih served']

/-- If the event is an execution, it is one of the text. -/
def OfText (sql : String) (event : Event) : Prop :=
  match event.call with
  | .exec _ text _ => text = sql
  | .execPrepared statement _ => statement.sql = sql
  | _ => True

theorem replied_of_regular {sql : String} {reply : Reply} {count : Nat}
    {event : Event} {executed : Executed} (answered : event.Regular reply count)
    (text : OfText sql event) (h : event.executed? = some executed) :
    executed.answer = reply sql executed.arguments count := by
  unfold Event.executed? at h
  split at h
  · obtain rfl := Option.some.inj h
    exact text ▸ answered
  · obtain rfl := Option.some.inj h
    exact text ▸ answered
  · cases h

theorem Passed.ofText {s : Statement} {rows : List Param} {trail : List Event}
    {pass : Pass} (h : Passed s rows trail pass) :
    ∀ event ∈ trail, OfText s.resolved event := by
  intro event hmem
  cases h with
  | rejected _ => cases hmem
  | unprepared _ =>
      obtain rfl := List.mem_singleton.mp hmem
      trivial
  | swept _ prepares _ _ closes =>
      rcases List.mem_append.mp hmem with hmem | hmem
      · rcases List.mem_append.mp hmem with hmem | hmem
        · rcases prepares.2 with rfl | rfl
          · cases hmem
          · obtain rfl := List.mem_singleton.mp hmem
            trivial
        · obtain ⟨executed, -, rfl⟩ := List.mem_map.mp hmem
          exact prepares.1
      · rcases closes with rfl | ⟨answer, rfl⟩
        · cases hmem
        · obtain rfl := List.mem_singleton.mp hmem
          trivial

theorem Ran.ofText {s : Statement} {rows : List Param} {trail : List Event}
    {result : Except Failure Tally} (h : Ran s rows trail result) :
    ∀ event ∈ trail, OfText s.resolved event := by
  cases h with
  | completed only => exact only.ofText
  | failed only _ => exact only.ofText
  | resumed first second =>
      exact List.forall_mem_append.mpr ⟨first.ofText, second.ofText⟩
  | resumedFailed first second =>
      exact List.forall_mem_append.mpr ⟨first.ofText, second.ofText⟩

/-- An event is a successful execution, or adds nothing to those of the events
behind it. -/
theorem executed_or_skipped (event : Event) :
    (∃ arguments outcome, event.executed? = some ⟨arguments, .ok outcome⟩ ∧
      applications [event] = 1) ∨
    applications [event] = 0 ∧ ∀ rest,
      (executions (event :: rest)).filter Executed.succeeded =
      (executions rest).filter Executed.succeeded := by
  cases hexecuted : event.executed? with
  | none =>
      refine .inr ⟨by simp [applications, executions, outcomes, hexecuted], ?_⟩
      intro rest
      rw [executions, List.filterMap_cons_none hexecuted, executions]
  | some executed =>
      obtain ⟨arguments, answer⟩ := executed
      have hcons (rest : List Event) :
          executions (event :: rest) = ⟨arguments, answer⟩ :: executions rest :=
        List.filterMap_cons_some hexecuted
      cases answer with
      | error e =>
          refine .inr ⟨by rw [applications, hcons]; rfl, ?_⟩
          intro rest
          rw [hcons]
          rfl
      | ok outcome =>
          exact .inl ⟨arguments, outcome, rfl, by rw [applications, hcons]; rfl⟩

/-- Rows that were applied along events that follow a reply are served by it,
however often the connection was lost between them. -/
theorem served_of_follows {s : Statement} {reply : Reply} {losses count : Nat}
    {rows : List Param} {trail : List Event}
    (hfollows : Follows reply losses count trail)
    (htext : ∀ event ∈ trail, OfText s.resolved event)
    (happlied : List.Forall₂ (Applied s) rows
      ((executions trail).filter Executed.succeeded)) :
    Served s reply count rows
      (outcomes ((executions trail).filter Executed.succeeded)) := by
  induction hfollows generalizing rows with
  | nil losses count =>
      cases happlied
      exact .nil count
  | @regular losses count event rest answered follows ih =>
      obtain ⟨hevent, hrest⟩ := List.forall_mem_cons.mp htext
      obtain ⟨arguments, outcome, hexecuted, hcount⟩ | ⟨hcount, hskip⟩ :=
        executed_or_skipped event
      · have hreplied := replied_of_regular answered hevent hexecuted
        have hcons : (executions (event :: rest)).filter Executed.succeeded =
            ⟨arguments, .ok outcome⟩ ::
              (executions rest).filter Executed.succeeded := by
          rw [executions, List.filterMap_cons_some hexecuted]
          rfl
        rw [hcons] at happlied ⊢
        rw [hcount] at ih
        cases happlied with
        | cons hrow hothers =>
            cases hrow with
            | intro bound identified =>
                exact .cons bound hreplied.symm identified (ih hrest hothers)
      · rw [hskip] at happlied ⊢
        rw [hcount] at ih
        exact ih hrest happlied
  | @lost losses count event rest unanswered follows ih =>
      obtain ⟨-, hrest⟩ := List.forall_mem_cons.mp htext
      obtain ⟨_, _, -, hcount⟩ | ⟨-, hskip⟩ := executed_or_skipped event
      · rw [applications_of_lost unanswered] at hcount
        cases hcount
      · rw [hskip] at happlied ⊢
        exact ih hrest happlied

/-- Behind rows that were applied the others are still to be served. -/
theorem Served.behind {s : Statement} {reply : Reply} {count : Nat}
    {rows : List Param} {expected : List Outcome} {done : List Executed}
    (h : Served s reply count rows expected) (hle : done.length ≤ rows.length) :
    ∃ left,
      Served s reply (count + done.length) (rows.drop done.length) left := by
  induction done generalizing count rows expected with
  | nil => exact ⟨expected, h⟩
  | cons executed others ih =>
      cases h with
      | nil => cases hle
      | cons _ _ _ served =>
          obtain ⟨left, hleft⟩ := ih served (by simpa using hle)
          rw [List.length_cons, Nat.add_comm others.length 1, ← Nat.add_assoc]
          rw [Nat.add_comm 1 others.length]
          exact ⟨left, hleft⟩

/-- At the row that stopped a pass the connection was lost, if that row would be
served. -/
theorem Stopped.only_lost {s : Statement} {reply : Reply} {losses count : Nat}
    {rows : List Param} {expected : List Outcome} {last : List Executed}
    {statement : Prepared} {cause : Cause}
    (h : Stopped s rows last (some cause)) (htext : statement.sql = s.resolved)
    (driven : last = [] → ∀ e, cause ≠ .driver e)
    (hserved : Served s reply count rows expected)
    (hfollows : Follows reply losses count
      (last.map (Executed.event statement))) :
    cause = .driver .badConnection ∧ 0 < losses := by
  generalize hfailure : some cause = failure at h
  cases h with
  | finished => cases hfailure
  | unprepared =>
      cases hfailure
      exact absurd rfl (driven rfl _)
  | unbound failed =>
      cases hserved with
      | cons bound _ _ _ =>
          rw [bound] at failed
          cases failed
  | @refused row rest arguments e bound =>
      cases hfailure
      cases hserved with
      | cons bound' replied _ _ =>
          obtain rfl := Except.ok.inj (bound.symm.trans bound')
          cases hfollows with
          | regular answered _ =>
              have hreplied : Except.error e =
                  reply statement.sql arguments count := answered
              rw [htext, replied] at hreplied
              cases hreplied
          | lost unanswered _ =>
              cases e with
              | badConnection => exact ⟨rfl, Nat.succ_pos _⟩
              | failed reason => cases unanswered
  | @withoutId row rest arguments outcome e bound missing =>
      cases hserved with
      | cons bound' replied identified _ =>
          obtain rfl := Except.ok.inj (bound.symm.trans bound')
          cases hfollows with
          | regular answered _ =>
              have hreplied : Except.ok outcome =
                  reply statement.sql arguments count := answered
              rw [htext, replied] at hreplied
              obtain rfl := Except.ok.inj hreplied
              rw [identified] at missing
              cases missing
          | lost unanswered _ => cases unanswered

/-- Where all the rows would be served, a pass stops only because it loses the
connection. -/
theorem Passed.only_lost {s : Statement} {reply : Reply} {losses count : Nat}
    {rows : List Param} {expected : List Outcome} {trail : List Event}
    {pass : Pass} {cause : Cause} (h : Passed s rows trail pass)
    (hcheck : check s rows = .ok ())
    (hserved : Served s reply count rows expected)
    (hfollows : Follows reply losses count trail)
    (hfailure : pass.failure = some cause) :
    cause = .driver .badConnection ∧ 0 < losses := by
  cases h with
  | rejected checked =>
      rw [hcheck] at checked
      cases checked
  | @unprepared statement e checked =>
      cases hfailure
      cases hfollows with
      | regular answered _ => cases answered
      | lost unanswered _ =>
          cases e with
          | badConnection => exact ⟨rfl, Nat.succ_pos _⟩
          | failed reason => cases unanswered
  | @swept statement opening closing done last _ checked prepares sweep driven
      closes =>
      obtain ⟨_, _, rfl, hfollows, -⟩ := hfollows.append
      obtain ⟨_, _, rfl, -, hfollows⟩ := hfollows.append
      rw [List.map_append] at hfollows
      obtain ⟨_, _, rfl, -, hfollows⟩ := hfollows.append
      have hopening : applications opening = 0 := by
        rw [applications, executions_of_prepares prepares]
        rfl
      have hdone :
          applications (done.map (Executed.event statement)) = done.length := by
        rw [applications, executions_map_event,
          length_outcomes_of_applied sweep.applied]
      rw [hopening, hdone, Nat.add_zero] at hfollows
      obtain ⟨left, hleft⟩ := hserved.behind sweep.length_done_le
      have hstopped := sweep.stopped
      rw [hfailure] at driven hstopped
      have hlost :=
        hstopped.only_lost prepares.1 (by simpa using driven) hleft hfollows
      exact ⟨hlost.1, by omega⟩

/-- Two batches along events that follow the same reply from the same count on:
if the first one succeeds, the other one loses the connection once at most, so
it succeeds too. -/
theorem Ran.same_tally {s : Statement} {reply : Reply}
    {losses others count : Nat} {rows : List Param} {trail again : List Event}
    {tally : Tally} {result : Except Failure Tally}
    (hfirst : Ran s rows trail (.ok tally))
    (hfollows : Follows reply losses count trail)
    (hsecond : Ran s rows again result)
    (hagain : Follows reply others count again) (honce : others ≤ 1) :
    result = .ok tally := by
  have hcheck : check s rows = .ok () := hfirst.check_ok
  obtain ⟨happlied, htally⟩ := hfirst.applied
  have hserved := served_of_follows hfollows hfirst.ofText happlied
  cases result with
  | ok other =>
      obtain ⟨happlied', htally'⟩ := hsecond.applied
      have hserved' := served_of_follows hagain hsecond.ofText happlied'
      have hsame := hserved.unique hserved'
      rw [outcomes_filter_succeeded, outcomes_filter_succeeded] at hsame
      rw [htally, htally', hsame]
  | error failure =>
      exfalso
      cases hsecond with
      | failed only kept =>
          exact kept (only.only_lost hcheck hserved hagain rfl).1
      | @resumedFailed left right executed _ _ _ cause first second =>
          obtain ⟨spent, rest, rfl, hleft, hright⟩ := hagain.append
          have hspent := (first.only_lost hcheck hserved hleft rfl).2
          obtain ⟨-, done, last, _, _, hdone, -, hswept, -⟩ :=
            first.swept_of_lost second
          obtain rfl : executed = done.length := hswept.executed
          rw [applications, hdone, hswept.length_outcomes_of_lost] at hright
          obtain ⟨left, hserved⟩ := hserved.behind hswept.length_done_le
          -- the only loss is spent in the first pass
          have hrest :=
            (second.only_lost (hswept.check_left hcheck) hserved hright rfl).2
          omega

/-- Losing the connection once goes unnoticed. If a batch succeeds on a steady
backend, it succeeds with the same tally where one call to prepare or to
execute, whichever it is, loses the connection. -/
theorem execute_recovers_lost_connection {backend : Backend σ} {reply : Reply}
    {applied : σ → Nat} (steady : backend.Steady reply applied) (s : Statement)
    (rows : List Param) (before : Session σ) {tally : Tally}
    (undisturbed : ((execute backend s rows).run before).1 = .ok tally)
    (position : Nat) :
    ((execute (backend.interrupted position) s rows).run
      { before with database := (before.database, 0) }).1 = .ok tally := by
  obtain ⟨trail, hextends, hran⟩ := execute_leaves backend s rows before
  obtain ⟨again, hextends', hran'⟩ :=
    execute_leaves (backend.interrupted position) s rows
      { before with database := (before.database, 0) }
  rw [undisturbed] at hran
  have hagain := steady.follows_interrupted hextends'.answers
  exact hran.same_tally (steady.follows hextends.answers) hran' hagain
    (by split <;> omega)

/-- A table that numbers its rows as they come. -/
def numbering : Backend Nat where
  answer
    | .exec .., rows => (.ok ⟨1, some rows⟩, rows + 1)
    | .execPrepared .., rows => (.ok ⟨1, some rows⟩, rows + 1)
    | .query .., rows => (.error (.failed "write only"), rows)
    | .queryPrepared .., rows => (.error (.failed "write only"), rows)
    | .prepare _, rows => (.ok (), rows)
    | .fetch _, rows => (.error (.failed "write only"), rows)
    | .closeCursor _, rows => (.ok (), rows)
    | .closeStatement _, rows => (.ok (), rows)
    | .beginTransaction, rows => (.ok (), rows)
    | .commit, rows => (.ok (), rows)
    | .rollback, rows => (.ok (), rows)
    | .abandon, rows => (.ok (), rows)
    | .close, rows => (.ok (), rows)
  clock rows := rows

theorem numbering_steady :
    numbering.Steady (fun _ _ rows => .ok ⟨1, some (rows : Int)⟩) id where
  regular call rows := by cases call <;> first | rfl | trivial
  counts call rows := by cases call <;> rfl

/-- The connection is lost at the second of three rows, and the ids are still
those of the rows. -/
theorem numbering_recovers_at_second_row :
    let s : Statement :=
      ⟨"add", .insert, "insert into t values (:a)", [], [⟨"a", 23, .single⟩],
        "insert into t values (?)", "insert into t values ($1)"⟩
    let rows : List Param :=
      [.sequence [.scalar (.text "a")], .sequence [.scalar (.text "b")],
        .sequence [.scalar .null]]
    numbering.Steady (fun _ _ rows => .ok ⟨1, some (rows : Int)⟩) id ∧
      ((execute numbering s rows).run (.start 4 ⟨false, none⟩)).1 =
        .ok ⟨[4, 5, 6], 3⟩ ∧
      ((execute (numbering.interrupted 2) s rows).run
        (.start (4, 0) ⟨false, none⟩)).1 =
        .ok ⟨[4, 5, 6], 3⟩ := by
  intro s rows
  have undisturbed :
      ((execute numbering s rows).run (.start 4 ⟨false, none⟩)).1 =
        .ok ⟨[4, 5, 6], 3⟩ := by
    decide
  exact ⟨numbering_steady, undisturbed,
    execute_recovers_lost_connection numbering_steady s rows _ undisturbed 2⟩

end NamedSql.Batch
