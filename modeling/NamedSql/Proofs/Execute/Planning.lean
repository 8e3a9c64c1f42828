import NamedSql.Execute
import NamedSql.Proofs.Fallible

/-!
When a call has a plan. The kind of the statement fits, its clauses settle, and
the parameters can be arranged for what is settled. They bind to one call then,
or they are the rows of a batch, which bind when they are run.
-/

namespace NamedSql.Plan

variable {dialect : Dialect} {s : Statement} {parameters : List Param}
  {plan : Plan}

theorem bindOrBatch_eq_ok_iff {arrangement : Arrangement} :
    bindOrBatch dialect s arrangement = .ok plan ↔
      (∃ rows, arrangement = .rows rows ∧ plan = .batch s rows) ∨
        ∃ binding, s.bind dialect arrangement = .ok binding ∧
          plan = .single s binding := by
  cases arrangement with
  | rows rows => simp [bindOrBatch, Statement.bind, eq_comm]
  | empty | positional | named =>
      constructor
      · intro h
        obtain ⟨binding, hbinding, rfl⟩ := Fallible.map_eq_ok_iff.mp h
        exact .inr ⟨binding, hbinding, rfl⟩
      · rintro (⟨rows, hrows, -⟩ | ⟨binding, hbinding, rfl⟩)
        · cases hrows
        · exact Fallible.map_eq_ok_iff.mpr ⟨binding, hbinding, rfl⟩

theorem execution_eq_ok_iff : execution dialect s parameters = .ok plan ↔
    s.kind.isWrite = true ∧ ∃ settled arrangement,
      s.settled dialect parameters = .ok settled ∧
      Arrangement.classify settled parameters .execute = .ok arrangement ∧
      bindOrBatch dialect settled arrangement = .ok plan := by
  constructor
  · intro h
    rw [execution] at h
    split at h
    · cases h
    · next hwrite =>
        obtain ⟨settled, hsettled, h⟩ := Fallible.bind_eq_ok_iff.mp h
        split at h
        · cases h
        · next arrangement harranged =>
            exact ⟨by simpa using hwrite, settled, arrangement, hsettled,
              harranged, h⟩
  · rintro ⟨hwrite, settled, arrangement, hsettled, harranged, hplan⟩
    simp [execution, hwrite, hsettled, harranged, hplan, bind, Except.bind]

theorem rows_eq_ok_iff {rows : List Param} :
    Plan.rows dialect s rows = .ok plan ↔
    s.kind.isWrite = true ∧ ∃ settled, s.settled dialect [] = .ok settled ∧
      plan = .batch settled rows := by
  constructor
  · intro h
    rw [Plan.rows] at h
    split at h
    · cases h
    · next hwrite =>
        obtain ⟨settled, hsettled, h⟩ := Fallible.bind_eq_ok_iff.mp h
        cases h
        exact ⟨by simpa using hwrite, settled, hsettled, rfl⟩
  · rintro ⟨hwrite, settled, hsettled, rfl⟩
    simp [Plan.rows, hwrite, hsettled, bind, Except.bind, pure, Except.pure]

theorem query_eq_ok_iff {settled : Statement} {binding : Binding} :
    query dialect s parameters = .ok (settled, binding) ↔
      s.kind = .select ∧ s.settled dialect parameters = .ok settled ∧
        ∃ arrangement, Arrangement.classify settled parameters .query =
          .ok arrangement ∧
          settled.bind dialect arrangement = .ok binding := by
  constructor
  · intro h
    rw [query] at h
    split at h
    · cases h
    · next hselect =>
        obtain ⟨found, hsettled, h⟩ := Fallible.bind_eq_ok_iff.mp h
        split at h
        · cases h
        · next arrangement harranged =>
            obtain ⟨bound, hbound, h⟩ := Fallible.bind_eq_ok_iff.mp h
            cases h
            exact ⟨by simpa using hselect, hsettled, arrangement,
              harranged, hbound⟩
  · rintro ⟨hselect, hsettled, arrangement, harranged, hbinding⟩
    simp [query, hselect, hsettled, harranged, hbinding, bind, Except.bind,
      pure, Except.pure]

end NamedSql.Plan
