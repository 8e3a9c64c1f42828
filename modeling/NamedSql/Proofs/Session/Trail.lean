import NamedSql.Proofs.Backend.Executions
import NamedSql.Proofs.Session.Aside

/-!
What a session leaves behind. The trail of an action is the list of events that
it appends: the calls that it asks the backend, each with its answer. Nothing
else reaches the backend, so the state of the database moves along the trail and
nowhere beside it. Log, recorder and scope leave no trail.

The rules below read the trail of an action off its parts, whatever the backend
answers.
-/

namespace NamedSql

variable {σ : Type}

namespace Session

/-- The second session is the first one after the events of the trail. -/
structure Extends (backend : Backend σ) (before : Session σ)
    (trail : List Backend.Event) (after : Session σ) : Prop where
  events : after.events = before.events ++ trail
  answers : backend.Answers before.database trail after.database

theorem Extends.of_silent {backend : Backend σ} {before after : Session σ}
    (hevents : after.events = before.events)
    (hdatabase : after.database = before.database) :
    Extends backend before [] after := by
  refine ⟨by rw [hevents, List.append_nil], ?_⟩
  rw [hdatabase]
  exact .nil before.database

theorem Extends.trans {backend : Backend σ} {first second third : Session σ}
    {left right : List Backend.Event}
    (hleft : Extends backend first left second)
    (hright : Extends backend second right third) :
    Extends backend first (left ++ right) third :=
  ⟨by rw [hright.events, hleft.events, List.append_assoc],
    hleft.answers.append hright.answers⟩

/-- From every session the action leaves a trail that fits its value. -/
def Leaves {α : Type} (backend : Backend σ) (action : Action σ α)
    (fits : α → List Backend.Event → Prop) : Prop :=
  ∀ before, ∃ trail, Extends backend before trail (action.run before).2 ∧
    fits (action.run before).1 trail

namespace Leaves

variable {α β : Type} {backend : Backend σ}
  {fits : α → List Backend.Event → Prop}

theorem pure {value : α} (h : fits value []) :
    Leaves backend (Pure.pure value : Action σ α) fits :=
  fun _ => ⟨[], .of_silent rfl rfl, h⟩

/-- What follows an action sees its value, and adds to its trail. -/
theorem bind {action : Action σ β} {next : β → Action σ α}
    {start : β → List Backend.Event → Prop}
    (hstart : Leaves backend action start)
    (hnext : ∀ value left, start value left →
      Leaves backend (next value) fun result right =>
      fits result (left ++ right)) :
    Leaves backend (action >>= next) fits := by
  intro before
  obtain ⟨left, hleft, hfirst⟩ := hstart before
  obtain ⟨right, hright, hsecond⟩ := hnext _ left hfirst (action.run before).2
  exact ⟨left ++ right, hleft.trans hright, hsecond⟩

theorem mono {looser : α → List Backend.Event → Prop} {action : Action σ α}
    (h : Leaves backend action fits)
    (himp : ∀ value trail, fits value trail → looser value trail) :
    Leaves backend action looser := by
  intro before
  obtain ⟨trail, hextends, hfits⟩ := h before
  exact ⟨trail, hextends, himp _ trail hfits⟩

/-- An action without a trail leaves what follows it alone. -/
theorem bind_silent {action : Action σ β} {next : β → Action σ α}
    (hsilent : Leaves backend action fun _ trail => trail = [])
    (hnext : ∀ value, Leaves backend (next value) fits) :
    Leaves backend (action >>= next) fits := by
  apply hsilent.bind
  rintro value _ rfl
  exact hnext value

end Leaves

/-- From every session the action comes to a value that fits. -/
def Gives {α : Type} (action : Action σ α) (fits : α → Prop) : Prop :=
  ∀ before, fits (action.run before).1

namespace Gives

variable {α β : Type} {fits : α → Prop}

theorem pure {value : α} (h : fits value) :
    Gives (Pure.pure value : Action σ α) fits :=
  fun _ => h

theorem bind {action : Action σ β} {next : β → Action σ α} {start : β → Prop}
    (hstart : Gives action start)
    (hnext : ∀ value, start value → Gives (next value) fits) :
    Gives (action >>= next) fits :=
  fun before => hnext _ (hstart before) (action.run before).2

end Gives

theorem Leaves.gives {α : Type} {backend : Backend σ} {action : Action σ α}
    {fits : α → List Backend.Event → Prop} (h : Leaves backend action fits) :
    Gives action fun value => ∃ trail, fits value trail :=
  fun before => (h before).imp fun _ hleft => hleft.2

theorem ask_leaves (backend : Backend σ) (call : Backend.Call) :
    Leaves backend (ask backend call) fun answer trail =>
      trail = [⟨call, answer⟩] :=
  fun _ => ⟨_, ⟨rfl, .cons rfl (.nil _)⟩, rfl⟩

theorem Silent.leaves {α : Type} {action : Action σ α} (h : Silent action)
    (backend : Backend σ) : Leaves backend action fun _ trail => trail = [] :=
  fun before => ⟨[], .of_silent (h.events before) (h.database before), rfl⟩

theorem modify_leaves (backend : Backend σ) (change : Session σ → Session σ)
    (hevents : ∀ session, (change session).events = session.events)
    (hdatabase : ∀ session, (change session).database = session.database) :
    Leaves backend (modify change : Action σ Unit) fun _ trail => trail = [] :=
  fun before => ⟨[], .of_silent (hevents before) (hdatabase before), rfl⟩

theorem time_leaves (backend : Backend σ) :
    Leaves backend (time backend) fun _ trail => trail = [] :=
  (time_aside backend).leaves backend

theorem warn_leaves (backend : Backend σ) (text : String) :
    Leaves backend (warn text : Action σ Unit) fun _ trail => trail = [] :=
  (warn_aside text).leaves backend

theorem print_leaves (backend : Backend σ) (text : String) :
    Leaves backend (print text : Action σ Unit) fun _ trail => trail = [] :=
  (print_aside text).leaves backend

theorem record_leaves (backend : Backend σ) (id : String) (start : Nat) :
    Leaves backend (record backend id start) fun _ trail => trail = [] :=
  (record_aside backend id start).leaves backend

/-- Preparing a text fails only where the backend does. What is prepared holds
the text. -/
def Prepares (sql : String) (trail : List Backend.Event) :
    Except DriverError Prepared → Prop
  | .error e => ∃ statement, trail = [⟨.prepare statement, .error e⟩]
  | .ok statement =>
      statement.sql = sql ∧
        (trail = [] ∨ trail = [⟨.prepare statement, .ok ()⟩])

theorem prepareNew_leaves (backend : Backend σ) (inTransaction : Bool)
    (sql : String) :
    Leaves backend (prepareNew backend inTransaction sql) fun result trail =>
      Prepares sql trail result := by
  apply (nextNumber_silent.leaves backend).bind_silent
  intro number
  apply (ask_leaves backend _).bind
  rintro (e | reply) _ rfl
  · exact .pure ⟨_, rfl⟩
  · exact .pure ⟨rfl, .inr rfl⟩

theorem prepare_leaves (backend : Backend σ) (sql : String) :
    Leaves backend (prepare backend sql) fun result trail =>
      Prepares sql trail result := by
  apply (get_aside.leaves backend).bind_silent
  intro session
  cases session.scope with
  | direct => exact prepareNew_leaves backend false sql
  | transaction prepared =>
      simp only
      cases hfind : prepared.find? (·.sql == sql) with
      | some statement =>
          have hsql : statement.sql = sql := by
            simpa using List.find?_some hfind
          exact .pure ⟨hsql, .inl rfl⟩
      | none =>
          apply (prepareNew_leaves backend true sql).bind
          rintro (e | statement) left hprepares
          · exact .pure (by simpa using hprepares)
          · -- keeping the statement for the next call asks nothing
            refine .bind_silent
              (modify_leaves backend _ (fun _ => rfl) (fun _ => rfl)) ?_
            intro _
            exact .pure (by simpa using hprepares)

/-- Giving a statement back asks at most to close it. -/
def Releases (statement : Prepared) (trail : List Backend.Event) : Prop :=
  trail = [] ∨ ∃ answer, trail = [⟨.closeStatement statement, answer⟩]

theorem release_leaves (backend : Backend σ) (statement : Prepared) :
    Leaves backend (release backend statement) fun _ trail =>
      Releases statement trail := by
  rw [release]
  split
  · exact .pure (.inl rfl)
  · exact (ask_leaves backend _).mono fun answer _ h => .inr ⟨answer, h⟩

theorem releaseOrWarn_leaves (backend : Backend σ) (statement : Prepared)
    (warning : String) :
    Leaves backend (releaseOrWarn backend statement warning) fun _ trail =>
      Releases statement trail := by
  apply (release_leaves backend statement).bind
  rintro (e | reply) left hleft
  · exact (warn_leaves backend warning).mono fun _ _ h => by
      simpa [h] using hleft
  · exact .pure (by simpa using hleft)

end Session

end NamedSql
