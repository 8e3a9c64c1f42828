import NamedSql.Proofs.Recorder.Conservation

/-!
Closing a recorder message by message. The one that closes it refuses further
records first, then sends a signal through the queue itself, for which it may
have to wait until the consumer has made room, and is done once the consumer has
met the signal and stopped. However these steps and others alternate, the
outcome is that of a recorder that is closed in one step.
-/

namespace NamedSql

/-- What waits in a queue: a record, or the signal to stop. -/
inductive Message where
  | record (execution : Execution)
  | stop
deriving DecidableEq, Repr

def Message.execution? : Message → Option Execution
  | .record execution => some execution
  | .stop => none

/-- How far a recorder is closed. -/
inductive Stage where
  | taking
  | refusing
  | signalled
  | stopped
deriving DecidableEq, Repr

/-- A recorder with the messages in its queue. -/
structure Mailbox where
  capacity : Nat
  messages : List Message
  statistics : List (String × Statistics)
  stage : Stage
deriving DecidableEq, Repr

namespace Mailbox

def ofSize (size : Nat) : Mailbox :=
  ⟨max 1 size, [], [], .taking⟩

/-- One step of those that share a mailbox: a record arrives, the consumer
receives a message, a caller starts to close it, or this caller tries to send
the signal. -/
inductive Step where
  | record (execution : Execution)
  | receive
  | close
  | signal
deriving DecidableEq, Repr

def record (mailbox : Mailbox) (execution : Execution) : Mailbox :=
  if mailbox.stage = .taking ∧ mailbox.messages.length < mailbox.capacity then
    { mailbox with
      messages :=
        mailbox.messages ++
          [.record ⟨Text.toUpper execution.id, execution.elapsed⟩] }
  else mailbox

/-- A record is counted; behind the signal nothing is received any more. -/
def receive (mailbox : Mailbox) : Mailbox :=
  if mailbox.stage = .stopped then mailbox
  else
    match mailbox.messages with
    | [] => mailbox
    | .record execution :: rest =>
        { mailbox with
          messages := rest
          statistics := Recorder.count mailbox.statistics execution }
    | .stop :: rest => { mailbox with messages := rest, stage := .stopped }

/-- Who comes second has nothing to do. -/
def close (mailbox : Mailbox) : Mailbox :=
  if mailbox.stage = .taking then { mailbox with stage := .refusing }
  else mailbox

/-- The signal waits for room. -/
def signal (mailbox : Mailbox) : Mailbox :=
  if mailbox.stage = .refusing ∧ mailbox.messages.length < mailbox.capacity then
    { mailbox with
      messages := mailbox.messages ++ [.stop], stage := .signalled }
  else mailbox

def step (mailbox : Mailbox) : Step → Mailbox
  | .record execution => mailbox.record execution
  | .receive => mailbox.receive
  | .close => mailbox.close
  | .signal => mailbox.signal

def run (mailbox : Mailbox) (steps : List Step) : Mailbox :=
  steps.foldl step mailbox

/-- The recorder that a mailbox shows. -/
def recorder (mailbox : Mailbox) : Recorder :=
  ⟨mailbox.capacity, mailbox.messages.filterMap Message.execution?,
    mailbox.statistics, mailbox.stage ≠ .taking⟩

/-- The recorder that a mailbox comes to: once it refuses records, what waits is
still counted. -/
def outcome (mailbox : Mailbox) : Recorder :=
  if mailbox.stage = .taking then mailbox.recorder
  else mailbox.recorder.shutdown

/-- What a step is to the recorder: to start closing it is to close it. -/
def Step.moves : Step → List Recorder.Move
  | .record execution => [.turn (.record execution)]
  | .receive => [.turn .consume]
  | .close => [.shutdown]
  | .signal => []

/-- The messages of records that wait. Once the signal was sent, it stands
behind all of them. -/
def messagesOf (records : List Execution) (stage : Stage) : List Message :=
  records.map .record ++ if stage = .signalled then [.stop] else []

/-- A mailbox in whose queue records wait; none are left once the signal was
received. -/
structure Holds (mailbox : Mailbox) (records : List Execution) : Prop where
  room : 0 < mailbox.capacity
  within : mailbox.messages.length ≤ mailbox.capacity
  messages_eq : mailbox.messages = messagesOf records mailbox.stage
  stopped : mailbox.stage = .stopped → records = []

theorem holds_ofSize (size : Nat) : (ofSize size).Holds [] :=
  ⟨Nat.lt_of_lt_of_le Nat.zero_lt_one (Nat.le_max_left 1 size), Nat.zero_le _,
    rfl, nofun⟩

variable {mailbox : Mailbox} {records : List Execution}

theorem filterMap_messagesOf (records : List Execution) (stage : Stage) :
    (messagesOf records stage).filterMap Message.execution? = records := by
  have hrecords :
      (records.map Message.record).filterMap Message.execution? = records := by
    rw [List.filterMap_map]
    exact List.filterMap_some
  rw [messagesOf, List.filterMap_append, hrecords]
  split <;> simp [Message.execution?]

theorem Holds.queue_eq (h : mailbox.Holds records) :
    mailbox.recorder.queue = records := by
  rw [recorder, h.messages_eq, filterMap_messagesOf]

theorem Holds.messages_of_unsignalled (h : mailbox.Holds records)
    (hstage : mailbox.stage ≠ .signalled) :
    mailbox.messages = records.map .record := by
  rw [h.messages_eq, messagesOf, if_neg hstage, List.append_nil]

theorem Holds.record (h : mailbox.Holds records) (execution : Execution) :
    ∃ records, (mailbox.record execution).Holds records := by
  rw [Mailbox.record]
  split
  · next htakes =>
      obtain ⟨hstage, hroom⟩ := htakes
      have hunsignalled : mailbox.stage ≠ .signalled := by simp [hstage]
      refine ⟨records ++ [⟨Text.toUpper execution.id, execution.elapsed⟩],
        h.room, ?_, ?_, ?_⟩
      · rw [List.length_append]
        exact hroom
      · rw [h.messages_of_unsignalled hunsignalled, messagesOf,
          if_neg hunsignalled]
        simp
      · intro hstopped
        rw [hstage] at hstopped
        cases hstopped
  · exact ⟨records, h⟩

theorem Holds.receive_of_record {execution : Execution}
    (h : mailbox.Holds (execution :: records)) :
    mailbox.receive = { mailbox with
      messages := messagesOf records mailbox.stage
      statistics := Recorder.count mailbox.statistics execution } := by
  have hmessages := h.messages_eq
  have hrunning : mailbox.stage ≠ .stopped :=
    fun hstopped => nomatch h.stopped hstopped
  rw [messagesOf, List.map_cons, List.cons_append, ← messagesOf] at hmessages
  rw [Mailbox.receive, if_neg hrunning, hmessages]

/-- With no record left the signal is received, if it was sent. -/
theorem Holds.receive_of_none (h : mailbox.Holds []) :
    mailbox.receive =
      if mailbox.stage = .signalled then
        { mailbox with messages := [], stage := .stopped }
      else mailbox := by
  have hmessages := h.messages_eq
  split
  · next hsignalled =>
      have hrunning : mailbox.stage ≠ .stopped := by simp [hsignalled]
      rw [messagesOf, if_pos hsignalled] at hmessages
      rw [Mailbox.receive, if_neg hrunning, hmessages]
      rfl
  · next hunsignalled =>
      rw [messagesOf, if_neg hunsignalled] at hmessages
      rw [Mailbox.receive, hmessages]
      exact ite_self _

theorem Holds.receive (h : mailbox.Holds records) :
    mailbox.receive.Holds records.tail := by
  cases records with
  | nil =>
      rw [h.receive_of_none]
      split
      · exact ⟨h.room, Nat.zero_le _, rfl, fun _ => rfl⟩
      · exact h
  | cons execution rest =>
      have hwithin := h.within
      rw [h.messages_eq, messagesOf, List.map_cons, List.cons_append,
        List.length_cons] at hwithin
      rw [h.receive_of_record]
      refine ⟨h.room, Nat.le_of_succ_le hwithin, rfl, ?_⟩
      intro hstopped
      exact nomatch h.stopped hstopped

theorem Holds.close (h : mailbox.Holds records) :
    mailbox.close.Holds records := by
  rw [Mailbox.close]
  split
  · next hstage =>
      have hmessages := h.messages_of_unsignalled (by simp [hstage])
      exact ⟨h.room, h.within, by simpa [messagesOf] using hmessages, nofun⟩
  · exact h

theorem Holds.signal (h : mailbox.Holds records) :
    mailbox.signal.Holds records := by
  rw [Mailbox.signal]
  split
  · next hready =>
      have hmessages := h.messages_of_unsignalled (by simp [hready.1])
      refine ⟨h.room, ?_, ?_, nofun⟩
      · rw [List.length_append]
        exact hready.2
      · rw [hmessages]
        rfl
  · exact h

theorem Holds.step (h : mailbox.Holds records) (s : Step) :
    ∃ records, (mailbox.step s).Holds records := by
  cases s with
  | record execution => exact h.record execution
  | receive => exact ⟨_, h.receive⟩
  | close => exact ⟨_, h.close⟩
  | signal => exact ⟨_, h.signal⟩

theorem outcome_of_taking (h : mailbox.stage = .taking) :
    mailbox.outcome = mailbox.recorder :=
  if_pos h

theorem outcome_of_closing (h : mailbox.stage ≠ .taking) :
    mailbox.outcome = mailbox.recorder.shutdown :=
  if_neg h

/-- A recorder that was closed in one step has nothing left to do. -/
theorem moved_outcome (h : mailbox.stage ≠ .taking)
    (moves : List Recorder.Move) :
    mailbox.outcome.moved moves = mailbox.outcome := by
  rw [outcome_of_closing h]
  exact Recorder.moved_of_closed rfl rfl moves

theorem Holds.takes_iff (h : mailbox.Holds records) :
    mailbox.recorder.Takes ↔
      mailbox.stage = .taking ∧ mailbox.messages.length < mailbox.capacity := by
  rw [Recorder.Takes, h.queue_eq]
  constructor
  · rintro ⟨hopen, hroom⟩
    have hstage : mailbox.stage = .taking := by simpa [recorder] using hopen
    refine ⟨hstage, ?_⟩
    rw [h.messages_of_unsignalled (by simp [hstage]), List.length_map]
    exact hroom
  · rintro ⟨hstage, hroom⟩
    rw [h.messages_of_unsignalled (by simp [hstage]), List.length_map] at hroom
    exact ⟨by simp [recorder, hstage], hroom⟩

theorem Holds.recorder_record (h : mailbox.Holds records)
    (execution : Execution) :
    (mailbox.record execution).recorder =
      mailbox.recorder.record execution.id execution.elapsed := by
  rw [Mailbox.record]
  split
  · next htakes =>
      rw [Recorder.record_of_takes (h.takes_iff.mpr htakes)]
      simp [recorder, Message.execution?]
  · next hrefuses =>
      rw [Recorder.record_of_not_takes (mt h.takes_iff.mp hrefuses)]

theorem Holds.recorder_receive (h : mailbox.Holds records) :
    mailbox.receive.recorder = mailbox.recorder.consume := by
  have hqueue := h.queue_eq
  cases records with
  | nil =>
      have hconsume : mailbox.recorder.consume = mailbox.recorder := by
        rw [Recorder.consume, hqueue]
      rw [hconsume, h.receive_of_none]
      split
      · next hsignalled =>
          simp [recorder, h.messages_eq, messagesOf, hsignalled,
            Message.execution?]
      · rfl
  | cons execution rest =>
      rw [Recorder.consume, hqueue, h.receive_of_record, recorder,
        filterMap_messagesOf]
      rfl

theorem Holds.taking_receive (h : mailbox.Holds records) :
    mailbox.receive.stage = .taking ↔ mailbox.stage = .taking := by
  cases records with
  | nil =>
      rw [h.receive_of_none]
      split
      · next hsignalled => simp [hsignalled]
      · rfl
  | cons execution rest => rw [h.receive_of_record]

/-- Each step of a mailbox is what it is to the recorder that the mailbox comes
to. -/
theorem Holds.outcome_step (h : mailbox.Holds records) (s : Step) :
    (mailbox.step s).outcome = mailbox.outcome.moved s.moves := by
  by_cases hstage : mailbox.stage = .taking
  · rw [outcome_of_taking hstage]
    cases s with
    | record execution =>
        have hstays : (mailbox.record execution).stage = .taking := by
          rw [Mailbox.record]
          split <;> exact hstage
        exact (outcome_of_taking hstays).trans (h.recorder_record execution)
    | receive =>
        exact (outcome_of_taking (h.taking_receive.mpr hstage)).trans
          h.recorder_receive
    | close =>
        have hclose : mailbox.close = { mailbox with stage := .refusing } :=
          if_pos hstage
        change mailbox.close.outcome = mailbox.recorder.shutdown
        rw [hclose]
        rfl
    | signal =>
        have hsignal : mailbox.signal = mailbox := if_neg (by simp [hstage])
        change mailbox.signal.outcome = mailbox.recorder
        rw [hsignal, outcome_of_taking hstage]
  · rw [moved_outcome hstage, outcome_of_closing hstage]
    cases s with
    | record execution =>
        have hrecord : mailbox.record execution = mailbox :=
          if_neg (by simp [hstage])
        change (mailbox.record execution).outcome = _
        rw [hrecord, outcome_of_closing hstage]
    | receive =>
        change mailbox.receive.outcome = _
        rw [outcome_of_closing (mt h.taking_receive.mp hstage),
          h.recorder_receive, Recorder.shutdown, Recorder.drain_consume]
        rfl
    | close =>
        have hclose : mailbox.close = mailbox := if_neg hstage
        change mailbox.close.outcome = _
        rw [hclose, outcome_of_closing hstage]
    | signal =>
        have hkept : mailbox.signal.recorder = mailbox.recorder := by
          rw [Mailbox.signal]
          split
          · next hready => simp [recorder, hready.1, Message.execution?]
          · rfl
        have hclosing : mailbox.signal.stage ≠ .taking := by
          rw [Mailbox.signal]
          split
          · intro htaking
            cases htaking
          · exact hstage
        exact (outcome_of_closing hclosing).trans
          (congrArg Recorder.shutdown hkept)

/-- However the steps alternate, a mailbox comes to the recorder that has made
the same moves. -/
theorem Holds.run (h : mailbox.Holds records) (steps : List Step) :
    (∃ records, (mailbox.run steps).Holds records) ∧
      (mailbox.run steps).outcome =
        mailbox.outcome.moved (steps.flatMap Step.moves) := by
  induction steps generalizing mailbox records with
  | nil => exact ⟨⟨records, h⟩, rfl⟩
  | cons s rest ih =>
      obtain ⟨next, hnext⟩ := h.step s
      obtain ⟨hholds, houtcome⟩ := ih hnext
      refine ⟨hholds, ?_⟩
      rw [List.flatMap_cons, Recorder.moved_append, ← h.outcome_step]
      exact houtcome

theorem capacity_step (mailbox : Mailbox) (s : Step) :
    (mailbox.step s).capacity = mailbox.capacity := by
  cases s with
  | record execution => simp only [step, record]; split <;> rfl
  | receive =>
      simp only [step, receive]
      split
      · rfl
      · split <;> rfl
  | close => simp only [step, close]; split <;> rfl
  | signal => simp only [step, signal]; split <;> rfl

theorem capacity_run (mailbox : Mailbox) (steps : List Step) :
    (mailbox.run steps).capacity = mailbox.capacity := by
  induction steps generalizing mailbox with
  | nil => rfl
  | cons s rest ih =>
      exact (ih (mailbox.step s)).trans (mailbox.capacity_step s)

theorem run_append (mailbox : Mailbox) (left right : List Step) :
    mailbox.run (left ++ right) = (mailbox.run left).run right :=
  List.foldl_append ..

/-- The consumer of a mailbox that is being closed empties the queue, and stops
if it meets the signal there. -/
theorem Holds.run_receive (h : mailbox.Holds records)
    (hclosing : mailbox.stage ≠ .taking) :
    let emptied := mailbox.run (List.replicate mailbox.messages.length .receive)
    emptied.Holds [] ∧
      (emptied.stage = .refusing ∨ emptied.stage = .stopped) := by
  induction records generalizing mailbox with
  | nil =>
      by_cases hsignalled : mailbox.stage = .signalled
      · have hmessages : mailbox.messages = [.stop] := by
          simp [h.messages_eq, messagesOf, hsignalled]
        have hrun :
            mailbox.run (List.replicate mailbox.messages.length .receive) =
              mailbox.receive := by
          rw [hmessages]
          rfl
        rw [hrun]
        refine ⟨h.receive, .inr ?_⟩
        rw [h.receive_of_none, if_pos hsignalled]
      · have hmessages : mailbox.messages = [] :=
          h.messages_of_unsignalled hsignalled
        rw [hmessages]
        refine ⟨h, ?_⟩
        change mailbox.stage = .refusing ∨ mailbox.stage = .stopped
        cases hstage : mailbox.stage <;> simp_all
  | cons execution rest ih =>
      have hnext := h.receive
      have hlength :
          mailbox.messages.length = mailbox.receive.messages.length + 1 := by
        rw [hnext.messages_eq, h.messages_eq, h.receive_of_record]
        rfl
      have hstill := mt h.taking_receive.mp hclosing
      rw [hlength, List.replicate_succ]
      exact ih hnext hstill

/-- Whatever waits, a caller who closes a mailbox is done once the consumer has
made room for the signal and received it. -/
theorem Holds.run_close (h : mailbox.Holds records) :
    (mailbox.run (.close :: List.replicate mailbox.messages.length .receive ++
      [.signal, .receive])).stage = .stopped := by
  have hclosing : mailbox.close.stage ≠ .taking := by
    rw [Mailbox.close]
    split
    · exact nofun
    · next hstage => exact hstage
  have hmessages : mailbox.close.messages = mailbox.messages := by
    rw [Mailbox.close]
    split <;> rfl
  obtain ⟨hempty, hstage⟩ := h.close.run_receive hclosing
  rw [hmessages] at hempty hstage
  rw [run_append]
  change ((mailbox.close.run _).signal.receive).stage = .stopped
  generalize mailbox.close.run _ = emptied at hempty hstage ⊢
  rcases hstage with hrefusing | hstopped
  · have hnone : emptied.messages = [] :=
      hempty.messages_of_unsignalled (by simp [hrefusing])
    have hready : emptied.stage = .refusing ∧
        emptied.messages.length < emptied.capacity :=
      ⟨hrefusing, by rw [hnone]; exact hempty.room⟩
    have hsignal : emptied.signal =
        { emptied with
          messages := emptied.messages ++ [.stop], stage := .signalled } :=
      if_pos hready
    rw [hempty.signal.receive_of_none, if_pos (by rw [hsignal])]
  · have hsignal : emptied.signal = emptied := if_neg (by simp [hstopped])
    rw [hsignal, Mailbox.receive, if_pos hstopped, hstopped]

end Mailbox

/-- A recorder loses only the records that find its queue full. Whatever moves
are made, the queue holds no more than its size, and a record enters it exactly
if the recorder is open and the queue has room. The count that is kept for an id
and the records of it that wait make up the records of it that entered. A
recorder is closed once it was shut down; then nothing waits, the statistics of
each id are those of all of its records that entered, and no move changes
anything. None of this depends on shutting down at once: where the steps of
closing and others alternate, the queue with the signal in it still holds no
more than its size, a closing that was started can be completed, and the
recorder comes to the one that was shut down where closing began. -/
theorem Recorder.loses_only_what_finds_no_room (size : Nat) :
    (∀ moves : List Move,
      let recorder := (ofSize size).moved moves
      let accepted := (ofSize size).accepted moves
      recorder.queue.length ≤ max 1 size ∧
        (∀ execution,
          (recorder.entering (.turn (.record execution)) =
            if recorder.closed = false ∧ recorder.queue.length < max 1 size then
              [⟨Text.toUpper execution.id, execution.elapsed⟩]
            else []) ∧
          recorder.record execution.id execution.elapsed = { recorder with
            queue :=
              recorder.queue ++
                recorder.entering (.turn (.record execution)) }) ∧
        (∀ id, countOf id recorder.statistics +
            recorder.queue.countP
              (fun execution => execution.id = Text.toUpper id) =
          accepted.countP fun execution => execution.id = Text.toUpper id) ∧
        (recorder.closed = true ↔ .shutdown ∈ moves) ∧
        (.shutdown ∈ moves → recorder.queue = [] ∧
          (∀ id, recorder.get? id = statisticsOf id accepted) ∧
          ∀ later, recorder.moved later = recorder)) ∧
    ∀ steps : List Mailbox.Step,
      let mailbox := (Mailbox.ofSize size).run steps
      let recorder := (ofSize size).moved (steps.flatMap Mailbox.Step.moves)
      mailbox.messages.length ≤ max 1 size ∧
        (mailbox.stage = .taking → mailbox.recorder = recorder) ∧
        (mailbox.stage ≠ .taking → mailbox.recorder.shutdown = recorder) ∧
        (mailbox.stage = .stopped →
          mailbox.messages = [] ∧ mailbox.recorder = recorder) ∧
        ∃ waited, (mailbox.run (.close :: waited)).stage = .stopped := by
  constructor
  · intro moves recorder accepted
    have h : Conserves (max 1 size) accepted recorder :=
      (conserves_ofSize size).moved moves
    have hclosed : recorder.closed = true ↔ .shutdown ∈ moves := by
      rw [closed_moved]
      simp [ofSize]
    refine ⟨h.within, fun execution => ⟨?_, recorder.move_record execution⟩,
      h.countOf_add_waiting, hclosed, ?_⟩
    · rw [entering_record]
      exact if_congr (by rw [Takes, h.capacity_eq]) rfl rfl
    · intro hshut
      have hempty := h.settled (hclosed.mpr hshut)
      exact ⟨hempty, h.get?_eq hempty,
        moved_of_closed (hclosed.mpr hshut) hempty⟩
  · intro steps mailbox recorder
    obtain ⟨⟨records, hholds⟩, houtcome⟩ :=
      (Mailbox.holds_ofSize size).run steps
    have hcapacity : mailbox.capacity = max 1 size :=
      Mailbox.capacity_run _ steps
    refine ⟨hcapacity ▸ hholds.within, ?_, ?_, ?_, _, hholds.run_close⟩
    · intro htaking
      exact (Mailbox.outcome_of_taking htaking).symm.trans houtcome
    · intro hclosing
      exact (Mailbox.outcome_of_closing hclosing).symm.trans houtcome
    · intro hstopped
      have hnone : records = [] := hholds.stopped hstopped
      have hmessages : mailbox.messages = [] := by
        rw [hholds.messages_eq, hnone, hstopped]
        rfl
      have hclosing : mailbox.stage ≠ .taking := by simp [hstopped]
      have hclosed : mailbox.recorder.closed = true := decide_eq_true hclosing
      have hempty : mailbox.recorder.queue = [] := hholds.queue_eq.trans hnone
      have hshut : mailbox.recorder.shutdown = mailbox.recorder :=
        moved_of_closed hclosed hempty [.shutdown]
      refine ⟨hmessages, ?_⟩
      rw [← hshut]
      exact (Mailbox.outcome_of_closing hclosing).symm.trans houtcome

end NamedSql
