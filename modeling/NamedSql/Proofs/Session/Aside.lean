import NamedSql.Session.Statements

/-!
Actions that pass the backend by. A silent action asks nothing and leaves calls
going where they went; it may look at the clock, write to the log, or give out a
number. One that is aside gives out no number either.
-/

namespace NamedSql.Session

variable {σ α β : Type}

/-- The action asks the backend nothing and leaves the scope. -/
structure Silent (action : Action σ α) : Prop where
  events : ∀ before, (action.run before).2.events = before.events
  database : ∀ before, (action.run before).2.database = before.database
  scope : ∀ before, (action.run before).2.scope = before.scope

/-- A silent action that gives out no number either. -/
structure Aside (action : Action σ α) : Prop extends Silent action where
  numbered : ∀ before, (action.run before).2.numbered = before.numbered

theorem nextNumber_silent : Silent (nextNumber : Action σ Nat) :=
  ⟨fun _ => rfl, fun _ => rfl, fun _ => rfl⟩

theorem Aside.pure (value : α) : Aside (Pure.pure value : Action σ α) :=
  ⟨⟨fun _ => rfl, fun _ => rfl, fun _ => rfl⟩, fun _ => rfl⟩

theorem Aside.bind {action : Action σ β} {next : β → Action σ α}
    (haction : Aside action) (hnext : ∀ value, Aside (next value)) :
    Aside (action >>= next) where
  events before := ((hnext _).events _).trans (haction.events before)
  database before := ((hnext _).database _).trans (haction.database before)
  scope before := ((hnext _).scope _).trans (haction.scope before)
  numbered before := ((hnext _).numbered _).trans (haction.numbered before)

theorem get_aside : Aside (get : Action σ (Session σ)) :=
  ⟨⟨fun _ => rfl, fun _ => rfl, fun _ => rfl⟩, fun _ => rfl⟩

theorem time_aside (backend : Backend σ) : Aside (time backend) :=
  ⟨⟨fun _ => rfl, fun _ => rfl, fun _ => rfl⟩, fun _ => rfl⟩

theorem inTransaction_aside : Aside (inTransaction : Action σ Bool) :=
  ⟨⟨fun _ => rfl, fun _ => rfl, fun _ => rfl⟩, fun _ => rfl⟩

theorem note_aside (line : LogLine) : Aside (note line : Action σ Unit) :=
  ⟨⟨fun _ => rfl, fun _ => rfl, fun _ => rfl⟩, fun _ => rfl⟩

theorem warn_aside (text : String) : Aside (warn text : Action σ Unit) :=
  note_aside (.warning text)

theorem print_aside (text : String) : Aside (print text : Action σ Unit) := by
  refine get_aside.bind fun session => ?_
  split
  · exact note_aside (.sql text)
  · exact .pure ()

theorem watch_aside (monitor : Monitor) :
    Aside (modify ({ · with monitor }) : Action σ Unit) :=
  ⟨⟨fun _ => rfl, fun _ => rfl, fun _ => rfl⟩, fun _ => rfl⟩

theorem record_aside (backend : Backend σ) (id : String) (start : Nat) :
    Aside (record backend id start) := by
  refine (time_aside backend).bind fun now => get_aside.bind fun session => ?_
  simp only
  split
  · exact .pure ()
  · split
    · exact (warn_aside _).bind fun _ => watch_aside _
    · exact watch_aside _

end NamedSql.Session
