import NamedSql.Proofs.Backend.Steady
import NamedSql.Proofs.Recorder.Counting
import NamedSql.Session.Statements

/-!
What sessions have recorded. The recorder watches a session from outside:
whichever one it is and whatever it holds, the same calls are made and the same
executions are handed to it. So the records of an action are a list of their
own, beside its value and its trail, and only whether the queue has room for
them depends on the recorder.

The rules below read the records of an action off its parts, together with its
trail.
-/

namespace NamedSql

namespace Backend

/-- The call runs SQL: it executes something or opens a query. -/
def Call.runs : Call → Bool
  | .exec .. | .execPrepared .. | .query .. | .queryPrepared .. => true
  | _ => false

def Event.runs (event : Event) : Bool :=
  event.call.runs

theorem applications_of_not_runs {event : Event} (h : event.runs = false) :
    applications [event] = 0 := by
  obtain ⟨call, answer⟩ := event
  cases call <;> first | rfl | cases h

end Backend

namespace Session

open Backend

variable {σ α β : Type}

/-- The warning about a record that found the queue full. -/
def lossWarning : LogLine :=
  .warning "execution record dropped"

/-- The session with another log and watched by another recorder. -/
def watched (session : Session σ) (log : List LogLine) (recorder : Recorder) :
    Session σ :=
  { session with
    log, monitor := { session.monitor with recorder := some recorder } }

/-- Whatever recorder watches, the action goes from the one session to the
other, comes to the value, and has these executions recorded. It warns if the
queue is full at one of them. -/
def Watched (action : Action σ α) (before : Session σ) (value : α)
    (after : Session σ) (records : List Execution) : Prop :=
  ∀ log recorder, ∃ lines,
    action.run (before.watched log recorder) =
      (value,
        after.watched (log ++ lines) (recorder.after (records.map .record))) ∧
    (lossWarning ∉ lines → recorder.Lossless (records.map .record))

/-- From every session the action has executions recorded, and the ids of the
records fit its value and its trail. -/
def Records (action : Action σ α) (fits : α → List Event → List String → Prop) :
    Prop :=
  ∀ before, ∃ value after trail records,
    Watched action before value after records ∧
      after.events = before.events ++ trail ∧
    fits value trail (records.map Execution.id)

namespace Records

variable {fits : α → List Event → List String → Prop}

/-- An action that neither sees log and recorder nor touches them. -/
theorem of_unwatched {action : Action σ α}
    (hcommutes : ∀ before log recorder,
      action.run (before.watched log recorder) =
      ((action.run before).1, (action.run before).2.watched log recorder))
    (hfits : ∀ before, ∃ trail,
      (action.run before).2.events = before.events ++ trail ∧
      fits (action.run before).1 trail []) : Records action fits := by
  intro before
  obtain ⟨trail, hevents, hvalue⟩ := hfits before
  refine ⟨_, _, trail, [], ?_, hevents, hvalue⟩
  intro log recorder
  refine ⟨[], ?_, fun _ => trivial⟩
  rw [hcommutes, List.append_nil]
  rfl

theorem pure {value : α} (h : fits value [] []) :
    Records (Pure.pure value : Action σ α) fits :=
  of_unwatched (fun _ _ _ => rfl) fun _ => ⟨[], (List.append_nil _).symm, h⟩

/-- What follows an action sees its value, and adds to its trail and its
records. -/
theorem bind {action : Action σ β} {next : β → Action σ α}
    {start : β → List Event → List String → Prop}
    (hstart : Records action start)
    (hnext : ∀ value left ids, start value left ids →
      Records (next value) fun result right others =>
      fits result (left ++ right) (ids ++ others)) :
    Records (action >>= next) fits := by
  intro before
  obtain ⟨first, middle, left, earlier, hfirst, hleft, hvalue⟩ := hstart before
  obtain ⟨value, after, right, later, hsecond, hright, hfits⟩ :=
    hnext _ left _ hvalue middle
  refine ⟨value, after, left ++ right, earlier ++ later, ?_, ?_, ?_⟩
  · intro log recorder
    obtain ⟨lines, hrun, hlossless⟩ := hfirst log recorder
    obtain ⟨more, hrest, hlater⟩ :=
      hsecond (log ++ lines) (recorder.after (earlier.map .record))
    refine ⟨lines ++ more, ?_, ?_⟩
    · rw [StateT.run_bind, hrun, List.map_append, Recorder.after_append,
        ← List.append_assoc]
      exact hrest
    · intro hwarned
      rw [List.mem_append, not_or] at hwarned
      rw [List.map_append, Recorder.lossless_append]
      exact ⟨hlossless hwarned.1, hlater hwarned.2⟩
  · rw [hright, hleft, List.append_assoc]
  · rw [List.map_append]
    exact hfits

theorem mono {looser : α → List Event → List String → Prop}
    {action : Action σ α} (h : Records action fits)
    (himp : ∀ value trail ids, fits value trail ids → looser value trail ids) :
    Records action looser := by
  intro before
  obtain ⟨value, after, trail, records, hwatched, hevents, hfits⟩ := h before
  exact ⟨value, after, trail, records, hwatched, hevents, himp _ _ _ hfits⟩

/-- Looking at the session tells nothing of its log and its recorder. -/
theorem bind_get {next : Session σ → Action σ α}
    (hsame : ∀ session log recorder,
      next (session.watched log recorder) = next session)
    (hnext : ∀ session, Records (next session) fits) :
    Records (get >>= next) fits := by
  intro before
  obtain ⟨value, after, trail, records, hwatched, hrest⟩ := hnext before before
  refine ⟨value, after, trail, records, ?_, hrest⟩
  intro log recorder
  have hrun : (get >>= next).run (before.watched log recorder) =
      (next before).run (before.watched log recorder) := by
    rw [← hsame before log recorder]
    rfl
  rw [hrun]
  exact hwatched log recorder

end Records

section

variable {action : Action σ β} {next : β → Action σ α}

/-- Nothing was asked and nothing recorded. -/
def Idle (trail : List Event) (ids : List String) : Prop :=
  trail = [] ∧ ids = []

theorem Records.bind_idle {fits : α → List Event → List String → Prop}
    (hidle : Records action fun _ => Idle)
    (hnext : ∀ value, Records (next value) fits) :
    Records (action >>= next) fits := by
  apply hidle.bind
  rintro value _ _ ⟨rfl, rfl⟩
  exact hnext value

/-- What follows an action may leave it at what the action has asked and
recorded. -/
theorem Records.then_idle {holds : List Event → List String → Prop}
    (hstart : Records action fun _ => holds)
    (hnext : ∀ value, Records (next value) fun _ => Idle) :
    Records (action >>= next) fun _ => holds := by
  apply hstart.bind
  intro value left ids hholds
  apply (hnext value).mono
  rintro _ _ _ ⟨rfl, rfl⟩
  rwa [List.append_nil, List.append_nil]

theorem idle_of_unwatched
    (hcommutes : ∀ before log recorder,
      action.run (before.watched log recorder) =
      ((action.run before).1, (action.run before).2.watched log recorder))
    (hevents : ∀ before, (action.run before).2.events = before.events) :
    Records action fun _ => Idle :=
  .of_unwatched hcommutes fun before =>
    ⟨[], (hevents before).trans (List.append_nil _).symm, rfl, rfl⟩

end

theorem ask_records (backend : Backend σ) (call : Call) :
    Records (ask backend call) fun answer trail ids =>
      trail = [⟨call, answer⟩] ∧ ids = [] :=
  .of_unwatched (fun _ _ _ => rfl) fun _ => ⟨_, rfl, rfl, rfl⟩

theorem time_records (backend : Backend σ) :
    Records (time backend) fun _ => Idle :=
  idle_of_unwatched (fun _ _ _ => rfl) fun _ => rfl

theorem nextNumber_records :
    Records (nextNumber : Action σ Nat) fun _ => Idle :=
  idle_of_unwatched (fun _ _ _ => rfl) fun _ => rfl

theorem inTransaction_records :
    Records (inTransaction : Action σ Bool) fun _ => Idle :=
  idle_of_unwatched (fun _ _ _ => rfl) fun _ => rfl

theorem swapScope_records (scope : Scope) :
    Records (swapScope scope : Action σ Scope) fun _ => Idle :=
  idle_of_unwatched (fun _ _ _ => rfl) fun _ => rfl

theorem note_records (line : LogLine) :
    Records (note line : Action σ Unit) fun _ => Idle := by
  intro before
  refine ⟨(), before, [], [], ?_, (List.append_nil _).symm, rfl, rfl⟩
  intro log recorder
  exact ⟨[line], rfl, fun _ => trivial⟩

theorem warn_records (text : String) :
    Records (warn text : Action σ Unit) fun _ => Idle :=
  note_records (.warning text)

theorem print_records (text : String) :
    Records (print text : Action σ Unit) fun _ => Idle := by
  refine .bind_get (fun _ _ _ => rfl) fun session => ?_
  split
  · exact note_records (.sql text)
  · exact .pure ⟨rfl, rfl⟩

/-- Recording looks at the clock, warns if the queue is full, and hands the
execution over. -/
theorem record_run (backend : Backend σ) (id : String) (start : Nat)
    (before : Session σ) (log : List LogLine) (recorder : Recorder) :
    (record backend id start).run (before.watched log recorder) =
      ((), before.watched (log ++ if recorder.drops then [lossWarning] else [])
        (recorder.record id (backend.clock before.database - start))) := by
  change StateT.run (if recorder.drops = true then _ else _) _ = _
  cases recorder.drops with
  | false =>
      change _ = ((), before.watched (log ++ []) _)
      rw [List.append_nil]
      rfl
  | true => rfl

theorem record_records (backend : Backend σ) (id : String) (start : Nat) :
    Records (record backend id start) fun _ trail ids =>
      trail = [] ∧ ids = [id] := by
  intro before
  refine ⟨(), before, [], [⟨id, backend.clock before.database - start⟩], ?_,
    (List.append_nil _).symm, rfl, rfl⟩
  intro log recorder
  refine ⟨_, record_run backend id start before log recorder, ?_⟩
  intro hwarned
  cases hdrops : recorder.drops with
  | false => exact ⟨hdrops, trivial⟩
  | true => simp [hdrops] at hwarned

/-- The action with the events that it leaves. -/
def traced (action : Action σ α) : Action σ (α × List Event) := do
  let asked := (← get).events.length
  let value ← action
  return (value, (← get).events.drop asked)

theorem Records.traced {action : Action σ α}
    {fits : α → List Event → List String → Prop} (h : Records action fits) :
    Records (Session.traced action) fun result trail ids =>
      result.2 = trail ∧ fits result.1 trail ids := by
  intro before
  obtain ⟨value, after, trail, records, hwatched, hevents, hfits⟩ := h before
  have hdropped : after.events.drop before.events.length = trail := by
    rw [hevents, List.drop_left]
  refine ⟨(value, trail), after, trail, records, ?_, hevents, rfl, hfits⟩
  intro log recorder
  obtain ⟨lines, hrun, hlossless⟩ := hwatched log recorder
  refine ⟨lines, ?_, hlossless⟩
  have htraced (session : Session σ) : (Session.traced action).run session =
      (((action.run session).1,
        (action.run session).2.events.drop session.events.length),
        (action.run session).2) := rfl
  rw [htraced, hrun, ← hdropped]
  rfl

/-- What holds of the parts holds of the whole. -/
structure Additive (holds : List Event → List String → Prop) : Prop where
  nil : holds [] []
  append :
      ∀ {left right : List Event} {ids others : List String}, holds left ids →
    holds right others → holds (left ++ right) (ids ++ others)

theorem Records.bind_additive {holds : List Event → List String → Prop}
    (hadditive : Additive holds) {action : Action σ β} {next : β → Action σ α}
    (hstart : Records action fun _ => holds)
    (hnext : ∀ value, Records (next value) fun _ => holds) :
    Records (action >>= next) fun _ => holds := by
  apply hstart.bind
  intro value left ids hleft
  exact (hnext value).mono fun _ _ _ hright => hadditive.append hleft hright

/-- Nothing was run and nothing recorded. -/
structure Quiet (trail : List Event) (ids : List String) : Prop where
  calls : ∀ event ∈ trail, event.runs = false
  ids : ids = []

theorem Idle.quiet {trail : List Event} {ids : List String}
    (h : Idle trail ids) : Quiet trail ids := by
  obtain ⟨rfl, rfl⟩ := h
  exact ⟨by simp, rfl⟩

theorem quiet_additive : Additive Quiet where
  nil := Idle.quiet ⟨rfl, rfl⟩
  append hleft hright :=
    ⟨List.forall_mem_append.mpr ⟨hleft.calls, hright.calls⟩,
      by rw [hleft.ids, hright.ids]; rfl⟩

/-- What was recorded are the executions that succeeded, each under the id. -/
def Counted (id : String) (trail : List Event) (ids : List String) : Prop :=
  ids = List.replicate (applications trail) id

theorem counted_additive (id : String) : Additive (Counted id) where
  nil := rfl
  append := by
    rintro left right _ _ rfl rfl
    rw [Counted, applications_append, List.replicate_append_replicate]

theorem applications_eq_zero {trail : List Event}
    (h : ∀ event ∈ trail, event.runs = false) : applications trail = 0 := by
  induction trail with
  | nil => rfl
  | cons event rest ih =>
      obtain ⟨hevent, hrest⟩ := List.forall_mem_cons.mp h
      rw [applications_cons, applications_of_not_runs hevent, ih hrest]

theorem Quiet.counted {trail : List Event} {ids : List String}
    (h : Quiet trail ids) (id : String) : Counted id trail ids := by
  rw [Counted, applications_eq_zero h.calls, h.ids]
  rfl

theorem ask_quiet (backend : Backend σ) (call : Call) (h : call.runs = false) :
    Records (ask backend call) fun _ => Quiet := by
  apply (ask_records backend call).mono
  rintro answer _ _ ⟨rfl, rfl⟩
  exact ⟨by simpa [Event.runs] using h, rfl⟩

/-- If nothing could be prepared, the backend was asked for it. -/
theorem prepareNew_records (backend : Backend σ) (inTransaction : Bool)
    (sql : String) :
    Records (prepareNew backend inTransaction sql) fun result trail ids =>
      Quiet trail ids ∧ ∀ e, result = .error e → trail ≠ [] := by
  apply nextNumber_records.bind_idle
  intro number
  apply (ask_records backend _).bind
  rintro (e | reply) _ _ ⟨rfl, rfl⟩
  · exact .pure ⟨⟨by simp [Event.runs, Call.runs], rfl⟩, by simp⟩
  · exact .pure ⟨⟨by simp [Event.runs, Call.runs], rfl⟩, by simp⟩

theorem prepare_records (backend : Backend σ) (sql : String) :
    Records (prepare backend sql) fun result trail ids =>
      Quiet trail ids ∧ ∀ e, result = .error e → trail ≠ [] := by
  refine .bind_get (fun _ _ _ => rfl) fun session => ?_
  cases session.scope with
  | direct => exact prepareNew_records backend false sql
  | transaction prepared =>
      simp only
      cases prepared.find? (·.sql == sql) with
      | some statement => exact .pure ⟨quiet_additive.nil, by simp⟩
      | none =>
          apply (prepareNew_records backend true sql).bind
          rintro (e | statement) left ids ⟨hquiet, hasked⟩
          · exact .pure ⟨by simpa using hquiet, by simpa using hasked⟩
          · -- keeping the statement for the next call asks and records nothing
            refine .bind_idle (idle_of_unwatched (fun _ _ _ => rfl) fun _ =>
              rfl) fun _ => ?_
            exact .pure ⟨by simpa using hquiet, by simp⟩

theorem release_quiet (backend : Backend σ) (statement : Prepared) :
    Records (release backend statement) fun _ => Quiet := by
  rw [release]
  split
  · exact .pure quiet_additive.nil
  · exact ask_quiet backend _ rfl

theorem releaseOrWarn_quiet (backend : Backend σ) (statement : Prepared)
    (warning : String) :
    Records (releaseOrWarn backend statement warning) fun _ => Quiet := by
  apply (release_quiet backend statement).bind_additive quiet_additive
  rintro (e | reply)
  · exact (warn_records warning).mono fun _ _ _ => Idle.quiet
  · exact .pure quiet_additive.nil

theorem exec_records (backend : Backend σ) (sql : String)
    (arguments : List Value) :
    Records (exec backend sql arguments) fun answer trail ids =>
      (∃ marked, trail = [⟨.exec marked sql arguments, answer⟩]) ∧
        ids = [] := by
  apply inTransaction_records.bind_idle
  intro marked
  exact (ask_records backend _).mono fun answer trail ids h =>
    ⟨⟨marked, h.1⟩, h.2⟩

/-- Every query asks the backend for something, if only for a statement. -/
def Asked (trail : List Event) (ids : List String) : Prop :=
  trail ≠ [] ∧ ids = []

theorem queryPrepared_records (backend : Backend σ) (statement : Prepared)
    (arguments : List Value) :
    Records (queryPrepared backend statement arguments) fun _ => Asked := by
  apply nextNumber_records.bind_idle
  intro cursor
  apply (ask_records backend _).bind
  rintro (e | result) _ _ ⟨rfl, rfl⟩
  · exact .pure ⟨by simp, rfl⟩
  · exact .pure ⟨by simp, rfl⟩

theorem query_records (backend : Backend σ) (sql : String)
    (arguments : List Value) :
    Records (query backend sql arguments) fun _ => Asked := by
  rw [query]
  split
  · apply nextNumber_records.bind_idle
    intro cursor
    apply inTransaction_records.bind_idle
    intro marked
    apply (ask_records backend _).bind
    rintro (e | result) _ _ ⟨rfl, rfl⟩
    · exact .pure ⟨by simp, rfl⟩
    · exact .pure ⟨by simp, rfl⟩
  · apply (prepare_records backend sql).bind
    rintro (e | statement) left ids ⟨⟨-, rfl⟩, hasked⟩
    · exact .pure ⟨by simpa using hasked, rfl⟩
    · apply (queryPrepared_records backend statement arguments).bind
      rintro (e | opened) right _ ⟨hright, rfl⟩
      · apply (releaseOrWarn_quiet backend statement _).bind
        rintro _ closing _ ⟨-, rfl⟩
        exact .pure ⟨by simp [hright], rfl⟩
      · exact .pure ⟨by simp [hright], rfl⟩

end Session

end NamedSql
