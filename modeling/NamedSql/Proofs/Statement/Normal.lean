import NamedSql.Statement.Basic

/-!
Normalizing a statement. It succeeds where the text reads as a template, fills
in what follows from the template, and does nothing more when it is repeated.
-/

namespace NamedSql.Statement

theorem normalize_eq_ok_iff {dialect : Dialect} {s normal : Statement} :
    s.normalize dialect = .ok normal ↔ ∃ template,
      Template.items s.text.toList = .ok template ∧
      normal = { s with
        columns := Template.columns template
        held := String.ofList (Template.heldText template)
        resolved := String.ofList
          (dialect.render (Template.heldText template)) } := by
  rw [normalize]
  cases Template.items s.text.toList with
  | error cause => simp
  | ok template => simp [eq_comm]

theorem exists_normalize_iff {dialect : Dialect} {s : Statement} :
    (∃ normal, s.normalize dialect = .ok normal) ↔
      ∃ template, Template.items s.text.toList = .ok template := by
  constructor
  · rintro ⟨normal, h⟩
    obtain ⟨template, htemplate, -⟩ := normalize_eq_ok_iff.mp h
    exact ⟨template, htemplate⟩
  · rintro ⟨template, htemplate⟩
    exact ⟨_, normalize_eq_ok_iff.mpr ⟨template, htemplate, rfl⟩⟩

/-- The resolved text is the held text in the driver's syntax. -/
theorem resolved_of_normalize {dialect : Dialect} {s normal : Statement}
    (h : s.normalize dialect = .ok normal) :
    normal.resolved = String.ofList (dialect.render normal.held.toList) := by
  obtain ⟨template, -, rfl⟩ := normalize_eq_ok_iff.mp h
  rw [String.toList_ofList]

/-- A normal statement is left as it is. -/
theorem normalize_of_normalize {dialect : Dialect} {s normal : Statement}
    (h : s.normalize dialect = .ok normal) :
    normal.normalize dialect = .ok normal := by
  obtain ⟨template, htemplate, rfl⟩ := normalize_eq_ok_iff.mp h
  exact normalize_eq_ok_iff.mpr ⟨template, htemplate, rfl⟩

end NamedSql.Statement
