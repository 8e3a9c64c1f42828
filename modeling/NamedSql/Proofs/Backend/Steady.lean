import NamedSql.Proofs.Backend.Executions

/-!
Backends that lose the connection once. A steady backend prepares every
statement, and what it replies to an execution depends on the text, the
arguments and the number of executions that have succeeded before. Interrupting
it at one place leaves all other answers as they were. Events follow a reply
with some losses if they are answered so but for that many lost connections.
-/

namespace NamedSql.Backend

variable {σ : Type}

/-- How an execution is replied to: by its text, its arguments, and how many
succeeded before. -/
abbrev Reply := String → List Value → Nat → Except DriverError Outcome

/-- How many executions among the events succeeded. -/
def applications (events : List Event) : Nat :=
  (outcomes (executions events)).length

theorem applications_append (left right : List Event) :
    applications (left ++ right) = applications left + applications right := by
  rw [applications, executions_append, outcomes_append, List.length_append]
  rfl

theorem applications_cons (event : Event) (rest : List Event) :
    applications (event :: rest) = applications [event] + applications rest :=
  applications_append [event] rest

/-- The event is answered as it should be, `count` executions having succeeded
before. -/
def Event.Regular (reply : Reply) (count : Nat) : Event → Prop
  | ⟨.prepare _, answer⟩ => answer = .ok ()
  | ⟨.exec _ sql arguments, answer⟩ => answer = reply sql arguments count
  | ⟨.execPrepared statement arguments, answer⟩ =>
      answer = reply statement.sql arguments count
  | _ => True

/-- `applied` tells from the state how many executions have succeeded, and
nothing else of the state shows in the answers to executions. How statements are
closed is left open. -/
structure Steady (backend : Backend σ) (reply : Reply) (applied : σ → Nat) :
    Prop where
  regular : ∀ call state,
    Event.Regular reply (applied state) ⟨call, (backend.answer call state).1⟩
  counts : ∀ call state, applied (backend.answer call state).2 =
    applied state + applications [⟨call, (backend.answer call state).1⟩]

def Call.preparesOrExecutes : Call → Bool
  | .prepare _ => true
  | .exec .. => true
  | .execPrepared .. => true
  | _ => false

/-- The backend, but for the connection that is lost when it is asked to prepare
or to execute for the time `position`, counted from 0. The state counts these
calls. -/
def interrupted (backend : Backend σ) (position : Nat) : Backend (σ × Nat) where
  answer call state :=
    if call.preparesOrExecutes then
      if state.2 = position then (.error .badConnection, (state.1, state.2 + 1))
      else
        let (answer, next) := backend.answer call state.1
        (answer, (next, state.2 + 1))
    else
      let (answer, next) := backend.answer call state.1
      (answer, (next, state.2))
  clock state := backend.clock state.1

/-- The events are answered as they should be, but for at most `losses` of them,
which lose the connection; `count` executions have succeeded before. -/
inductive Follows (reply : Reply) : Nat → Nat → List Event → Prop where
  | nil (losses count : Nat) : Follows reply losses count []
  | regular {losses count : Nat} {event : Event} {rest : List Event}
      (answered : event.Regular reply count)
      (follows : Follows reply losses (count + applications [event]) rest) :
      Follows reply losses count (event :: rest)
  | lost {losses count : Nat} {event : Event} {rest : List Event}
      (unanswered : event.losesConnection = true)
      (follows : Follows reply losses count rest) :
      Follows reply (losses + 1) count (event :: rest)

/-- A lost connection applies nothing. -/
theorem applications_of_lost {event : Event}
    (h : event.losesConnection = true) : applications [event] = 0 := by
  unfold Event.losesConnection at h
  split at h
  · rfl
  · rfl
  · rfl
  · cases h

theorem Follows.append {reply : Reply} {losses count : Nat}
    {left right : List Event} (h : Follows reply losses count (left ++ right)) :
    ∃ first second,
      losses = first + second ∧ Follows reply first count left ∧
        Follows reply second (count + applications left) right := by
  induction left generalizing losses count with
  | nil => exact ⟨0, losses, by omega, .nil 0 count, h⟩
  | cons event rest ih =>
      rw [applications_cons]
      cases h with
      | regular answered follows =>
          obtain ⟨first, second, rfl, hrest, hright⟩ := ih follows
          rw [Nat.add_assoc] at hright
          exact ⟨first, second, rfl, .regular answered hrest, hright⟩
      | lost unanswered follows =>
          obtain ⟨first, second, rfl, hrest, hright⟩ := ih follows
          rw [applications_of_lost unanswered, Nat.zero_add]
          exact ⟨first + 1, second, by omega, .lost unanswered hrest, hright⟩

theorem Steady.follows {backend : Backend σ} {reply : Reply} {applied : σ → Nat}
    (h : backend.Steady reply applied) {first last : σ} {events : List Event}
    (answers : backend.Answers first events last) :
    Follows reply 0 (applied first) events := by
  induction answers with
  | nil state => exact .nil 0 _
  | @cons state _ _ call _ _ asked _ ih =>
      have hregular := h.regular call state
      have hcounts := h.counts call state
      rw [asked] at hregular hcounts
      rw [hcounts] at ih
      exact .regular hregular ih

/-- An interrupted backend answers like the backend itself, except for the one
loss; behind the position there is none. -/
theorem Steady.follows_interrupted {backend : Backend σ} {reply : Reply}
    {applied : σ → Nat} (h : backend.Steady reply applied) {position : Nat}
    {first last : σ × Nat} {events : List Event}
    (answers : (backend.interrupted position).Answers first events last) :
    Follows reply (if first.2 ≤ position then 1 else 0) (applied first.1)
      events := by
  induction answers with
  | nil state => exact .nil _ _
  | @cons state next _ call answer _ asked _ ih =>
      have hregular := h.regular call state.1
      have hcounts := h.counts call state.1
      simp only [interrupted] at asked
      split at asked
      · next hcounted =>
          split at asked
          · next hposition =>
              cases asked
              rw [if_neg (by simp [hposition])] at ih
              rw [if_pos (by omega)]
              refine .lost ?_ ih
              cases call <;> first | rfl | cases hcounted
          · next hposition =>
              cases asked
              refine .regular hregular ?_
              rw [← hcounts]
              have hsame :
                  state.2 + 1 ≤ position ↔ state.2 ≤ position := by omega
              simpa only [hsame] using ih
      · next hother =>
          cases asked
          refine .regular hregular ?_
          rw [← hcounts]
          exact ih

end NamedSql.Backend
