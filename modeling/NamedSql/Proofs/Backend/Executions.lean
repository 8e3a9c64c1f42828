import NamedSql.Backend.Basic

/-!
Events as the theorems see them. The executions among events carry their
arguments and what the backend answered; the outcomes are those of the
executions that succeeded. Events that a backend has answered one after the
other take its state from the first to the last.
-/

namespace NamedSql.Backend

variable {σ : Type}

/-- An execution as the backend answered it. -/
structure Executed where
  arguments : List Value
  answer : Except DriverError Outcome

def Executed.outcome? (executed : Executed) : Option Outcome :=
  match executed.answer with
  | .ok outcome => some outcome
  | .error _ => none

def Executed.succeeded (executed : Executed) : Bool :=
  executed.outcome?.isSome

/-- The execution of a prepared statement as an event. -/
def Executed.event (statement : Prepared) (executed : Executed) : Event :=
  ⟨.execPrepared statement executed.arguments, executed.answer⟩

def Event.executed? : Event → Option Executed
  | ⟨.exec _ _ arguments, answer⟩ => some ⟨arguments, answer⟩
  | ⟨.execPrepared _ arguments, answer⟩ => some ⟨arguments, answer⟩
  | _ => none

/-- The executions among events, in order. -/
def executions (events : List Event) : List Executed :=
  events.filterMap Event.executed?

theorem executions_append (left right : List Event) :
    executions (left ++ right) = executions left ++ executions right :=
  List.filterMap_append ..

theorem executions_map_event (statement : Prepared) (done : List Executed) :
    executions (done.map (Executed.event statement)) = done := by
  have hevent : Event.executed? ∘ Executed.event statement = some := rfl
  rw [executions, List.filterMap_map, hevent, List.filterMap_some]

/-- The outcomes of the executions that succeeded, in order. -/
def outcomes (done : List Executed) : List Outcome :=
  done.filterMap Executed.outcome?

theorem outcomes_append (left right : List Executed) :
    outcomes (left ++ right) = outcomes left ++ outcomes right :=
  List.filterMap_append ..

theorem outcomes_filter_succeeded (done : List Executed) :
    outcomes (done.filter Executed.succeeded) = outcomes done := by
  rw [outcomes, outcomes, List.filterMap_filter]
  congr 1
  funext executed
  rcases hanswer : executed.outcome? with _ | outcome
  · simp [Executed.succeeded, hanswer]
  · simp [Executed.succeeded, hanswer]

/-- An execution succeeded where its event did. -/
theorem Event.succeeded_of_executed? {event : Event} {executed : Executed}
    (h : event.executed? = some executed) :
    executed.succeeded = event.succeeded := by
  unfold executed? at h
  split at h
  · next answer =>
      obtain rfl := Option.some.inj h
      cases answer <;> rfl
  · next answer =>
      obtain rfl := Option.some.inj h
      cases answer <;> rfl
  · cases h

/-- Preparing or executing has lost the connection. -/
def Event.losesConnection : Event → Bool
  | ⟨.prepare _, .error .badConnection⟩ => true
  | ⟨.exec .., .error .badConnection⟩ => true
  | ⟨.execPrepared .., .error .badConnection⟩ => true
  | _ => false

/-- A backend answers the calls of the events one after the other, and its state
goes from the first to the last. -/
inductive Answers (backend : Backend σ) : σ → List Event → σ → Prop where
  | nil (state : σ) : backend.Answers state [] state
  | cons {state next last : σ} {call : Call}
      {answer : Except DriverError call.Reply} {events : List Event}
      (asked : backend.answer call state = (answer, next))
      (rest : backend.Answers next events last) :
      backend.Answers state (⟨call, answer⟩ :: events) last

theorem Answers.append {backend : Backend σ} {first middle last : σ}
    {left right : List Event} (hleft : backend.Answers first left middle)
    (hright : backend.Answers middle right last) :
    backend.Answers first (left ++ right) last := by
  induction hleft with
  | nil state => exact hright
  | cons asked _ ih => exact .cons asked (ih hright)

theorem Answers.split {backend : Backend σ} {first last : σ}
    {left right : List Event} (h : backend.Answers first (left ++ right) last) :
    ∃ middle, backend.Answers first left middle ∧
      backend.Answers middle right last := by
  induction left generalizing first with
  | nil => exact ⟨first, .nil first, h⟩
  | cons event rest ih =>
      cases h with
      | cons asked answers =>
          obtain ⟨middle, hrest, hright⟩ := ih answers
          exact ⟨middle, .cons asked hrest, hright⟩

end NamedSql.Backend
