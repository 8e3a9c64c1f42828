import NamedSql.Proofs.Binding.Alignment
import NamedSql.Proofs.Batch.Acceptance

/-!
How many optionals may stand around a value that is bound. A column that takes
one value, an element of a list and a value of a row stand behind one optional
at most. Only a list column looks through one more: what it finds behind the
first optional, if that is no list, may be an optional again.
-/

namespace NamedSql

namespace Param

/-- An optional around another optional. -/
def isNested : Param → Bool
  | .optional (some (.optional _)) => true
  | _ => false

/-- Two optionals around a scalar, or around nothing. -/
inductive IsTwofold : Param → Value → Prop where
  | scalar (value : Value) :
      IsTwofold (.optional (some (.optional (some (.scalar value))))) value
  | nothing : IsTwofold (.optional (some (.optional none))) .null

/-- What a slot may bind. A value behind two optionals passes at a list slot
only, where it counts as a list of one; an element of a list never does. -/
structure Shallow (mode : SlotMode) (p : Param) : Prop where
  value : p.isNested = true → mode = .list ∧ ∃ value, p.IsTwofold value
  elements : ∀ items, p.unwrapped = .sequence items → ∀ item ∈ items,
    item.isNested = false

variable {p : Param} {value : Value} {values : List Value}

theorem exists_of_isNested (h : p.isNested = true) :
    ∃ inner, p = .optional (some (.optional inner)) := by
  rw [isNested.eq_def] at h
  split at h
  · exact ⟨_, rfl⟩
  · cases h

theorem IsScalar.isNested_eq (h : p.IsScalar value) : p.isNested = false := by
  cases h with
  | scalar | nothing | held => rfl

theorem isNested_eq_of_scalars {ps : List Param}
    (h : List.Forall₂ IsScalar ps values) : ∀ p ∈ ps, p.isNested = false := by
  induction h with
  | nil => exact List.forall_mem_nil _
  | cons hscalar _ ih =>
      exact List.forall_mem_cons.mpr ⟨hscalar.isNested_eq, ih⟩

theorem IsScalar.shallow {mode : SlotMode} (h : p.IsScalar value) :
    p.Shallow mode where
  value := by
    intro hnested
    rw [h.isNested_eq] at hnested
    cases hnested
  elements := by
    intro items hitems
    cases h with
    | scalar | nothing | held => cases hitems

/-- A list slot takes what stands behind two optionals exactly if it is one
value. -/
theorem supplies_list_iff_of_nested (hnested : p.isNested = true) :
    p.Supplies .list values ↔
      ∃ value, p.IsTwofold value ∧ values = [value] := by
  obtain ⟨inner, rfl⟩ := exists_of_isNested hnested
  constructor
  · intro h
    cases h with
    | empty holds | elements holds => cases holds
    | lone _ scalar =>
        cases scalar with
        | nothing => exact ⟨_, .nothing, rfl⟩
        | held => exact ⟨_, .scalar _, rfl⟩
  · rintro ⟨value, htwofold, rfl⟩
    have hlone (items : List Param) :
        Param.optional inner ≠ .sequence items := by simp
    cases htwofold with
    | scalar => exact .lone hlone (.held value)
    | nothing => exact .lone hlone .nothing

theorem Supplies.shallow {mode : SlotMode} (h : p.Supplies mode values) :
    p.Shallow mode where
  value := by
    intro hnested
    cases mode with
    | single =>
        cases h with
        | single scalar => exact scalar.shallow.value hnested
    | list =>
        obtain ⟨value, htwofold, -⟩ :=
          (supplies_list_iff_of_nested hnested).mp h
        exact ⟨rfl, value, htwofold⟩
  elements := by
    intro items hitems
    cases h with
    | single scalar =>
        have hshallow : p.Shallow .single := scalar.shallow
        exact hshallow.elements items hitems
    | empty holds =>
        obtain rfl := Param.sequence.inj (holds.symm.trans hitems)
        exact List.forall_mem_nil _
    | elements holds scalars =>
        obtain rfl := Param.sequence.inj (holds.symm.trans hitems)
        exact isNested_eq_of_scalars scalars
    | lone holds_none _ => exact absurd hitems (holds_none items)

end Param

namespace Statement

variable {dialect : Dialect} {s : Statement}
  {lookup : Nat → Column → Except Cause Param}

/-- What a column was filled with. -/
theorem Fills.exists_supplies {start index : Nat} {columns : List Column}
    {column : Column} {supplied : List (List Value)}
    (h : Fills lookup start columns supplied)
    (hcolumn : columns[index]? = some column) :
    ∃ p values, lookup (start + index) column = .ok p ∧
      p.Supplies column.mode values := by
  induction h generalizing index with
  | nil => cases hcolumn
  | @cons start first rest p values others found supplies _ ih =>
      cases index with
      | zero =>
          obtain rfl := Option.some.inj hcolumn
          exact ⟨p, values, found, supplies⟩
      | succ index =>
          obtain ⟨p, values, hfound, hsupplies⟩ := ih hcolumn
          rw [Nat.add_right_comm] at hfound
          exact ⟨p, values, hfound, hsupplies⟩

/-- A column that was bound has found a value that may be bound to it. -/
theorem exists_shallow_of_bindColumns {binding : Binding} {index : Nat}
    {column : Column} (h : s.bindColumns dialect lookup = .ok binding)
    (hcolumn : s.columns[index]? = some column) :
    ∃ p, lookup index column = .ok p ∧ p.Shallow column.mode := by
  obtain ⟨supplied, hfills, -⟩ := exists_fills_of_go h
  obtain ⟨p, values, hfound, hsupplies⟩ := hfills.exists_supplies hcolumn
  rw [Nat.zero_add] at hfound
  exact ⟨p, hfound, hsupplies.shallow⟩

theorem shallow_of_bindNamed {values : NamedParams} {binding : Binding}
    {column : Column} {p : Param} (h : s.bindNamed dialect values = .ok binding)
    (hcolumn : column ∈ s.columns)
    (hfound : lookupNamed values column = .ok p) : p.Shallow column.mode := by
  obtain ⟨index, hindex⟩ := List.mem_iff_getElem?.mp hcolumn
  obtain ⟨q, hq, hshallow⟩ := exists_shallow_of_bindColumns h hindex
  obtain rfl : p = q := Except.ok.inj (hfound.symm.trans hq)
  exact hshallow

theorem shallow_of_bindPositional {values : List Param} {binding : Binding}
    (h : s.bindPositional dialect values = .ok binding) :
    (∀ bound ∈ s.columns.zip values, bound.2.Shallow bound.1.mode) ∧
      (s.hasList = false → ∀ p ∈ values, p.isNested = false) := by
  rw [bindPositional] at h
  split at h
  · cases h
  · split at h
    · next hlist =>
        refine ⟨?_, fun hsingle => absurd hlist (by simp [hsingle])⟩
        rintro ⟨column, p⟩ hbound
        obtain ⟨index, hindex⟩ := List.mem_iff_getElem?.mp hbound
        obtain ⟨hcolumn, hvalue⟩ := List.getElem?_zip_eq_some.mp hindex
        obtain ⟨q, hq, hshallow⟩ := exists_shallow_of_bindColumns h hcolumn
        rw [hvalue] at hq
        obtain rfl := Except.ok.inj hq
        exact hshallow
    · obtain ⟨arguments, harguments, -⟩ := Fallible.bind_eq_ok_iff.mp h
      have hscalars := exists_scalarsFrom_iff.mp ⟨arguments, harguments⟩
      constructor
      · intro bound hbound
        obtain ⟨value, hvalue⟩ := hscalars bound.2 (List.of_mem_zip hbound).2
        exact hvalue.shallow
      · intro _ p hp
        obtain ⟨value, hvalue⟩ := hscalars p hp
        exact hvalue.isNested_eq

/-- A value of a row is bound as a scalar, whatever its column takes. -/
theorem isNested_eq_of_toScalar {column : String} {p : Param} {value : Value}
    (h : p.toScalar column = .ok value) : p.isNested = false :=
  (Param.toScalar_eq_ok_iff.mp h).isNested_eq

theorem isNested_eq_of_bindRow {row : Param} {arguments : List Value}
    (h : s.bindRow row = .ok arguments) : row.isNested = false := by
  cases hnested : row.isNested with
  | false => rfl
  | true =>
      obtain ⟨inner, rfl⟩ := Param.exists_of_isNested hnested
      cases h

theorem isNested_eq_of_bindRow_sequence {row : Param} {items : List Param}
    {arguments : List Value} (h : s.bindRow row = .ok arguments)
    (hrow : row.present = .ok (.sequence items)) :
    ∀ bound ∈ s.columns.zip items, bound.2.isNested = false := by
  simp only [bindRow, hrow] at h
  split at h
  · cases h
  · intro bound hbound
    obtain ⟨value, hvalue⟩ := Fallible.exists_of_mapM_eq_ok h bound hbound
    exact isNested_eq_of_toScalar hvalue

theorem isNested_eq_of_bindRow_named {row : Param} {kind : String}
    {values : NamedParams} {arguments : List Value}
    (h : s.bindRow row = .ok arguments) (hrow : Batch.NamedRow kind row values)
    {column : Column} (hcolumn : column ∈ s.columns) {p : Param}
    (hfound : lookupNamed values column = .ok p) : p.isNested = false := by
  rw [hrow.bindRow_eq] at h
  obtain ⟨value, hvalue⟩ := Fallible.exists_of_mapM_eq_ok h column hcolumn
  obtain ⟨q, hq, hscalar⟩ := Fallible.bind_eq_ok_iff.mp hvalue
  obtain rfl : p = q := Except.ok.inj (hfound.symm.trans hq)
  exact isNested_eq_of_toScalar hscalar

/-- Whatever binds stands behind one optional at most, except for the single
value of a list column, which may stand behind two. That holds by name and by
position, where it includes the values without a column, and a row has no
exception. -/
theorem only_list_columns_bind_behind_two (s : Statement) :
    (∀ dialect (values : NamedParams) binding,
      s.bindNamed dialect values = .ok binding →
      ∀ column ∈ s.columns, ∀ p, lookupNamed values column = .ok p →
      p.Shallow column.mode) ∧
    (∀ dialect (values : List Param) binding,
      s.bindPositional dialect values = .ok binding →
      (∀ bound ∈ s.columns.zip values, bound.2.Shallow bound.1.mode) ∧
      (s.hasList = false → ∀ p ∈ values, p.isNested = false)) ∧
    (∀ row arguments, s.bindRow row = .ok arguments →
      row.isNested = false ∧
      (∀ items, row.present = .ok (.sequence items) →
        ∀ bound ∈ s.columns.zip items, bound.2.isNested = false) ∧
      ∀ kind values, Batch.NamedRow kind row values →
        ∀ column ∈ s.columns, ∀ p, lookupNamed values column = .ok p →
        p.isNested = false) := by
  refine ⟨?_, ?_, ?_⟩
  · intro dialect values binding h column hcolumn p hfound
    exact shallow_of_bindNamed h hcolumn hfound
  · intro dialect values binding h
    exact shallow_of_bindPositional h
  · intro row arguments h
    refine ⟨isNested_eq_of_bindRow h, ?_, ?_⟩
    · intro items hrow
      exact isNested_eq_of_bindRow_sequence h hrow
    · intro kind values hrow column hcolumn p hfound
      exact isNested_eq_of_bindRow_named h hrow hcolumn hfound

/-- A list of elements behind one optional each and a value behind two are bound
to two list columns, and a row takes the first element for a list column. -/
theorem only_list_columns_bind_behind_two_of_query_and_row :
    let s : Statement :=
      ⟨"q", .select, ":i[] :j[]", [], [⟨"i", 1, .list⟩, ⟨"j", 3, .list⟩],
        "? ?", "? ?"⟩
    let one : Param := .optional (some (.scalar (.int 1)))
    let two : Param := .optional (some (.optional none))
    let values : List Param := [.optional (some (.sequence [one, one])), two]
    let row : Param := .optional (some (.sequence [one, one, two]))
    s.bindPositional .question values = .ok ⟨"?,? ?", [.int 1, .int 1, .null]⟩ ∧
      (∀ bound ∈ s.columns.zip values, bound.2.Shallow bound.1.mode) ∧
      s.bindRow row = .ok [.int 1, .int 1] ∧ row.isNested = false ∧
      ∀ bound ∈ s.columns.zip [one, one, two], bound.2.isNested = false := by
  intro s one two values row
  have hplaced : s.bindPositional .question values =
      .ok ⟨"?,? ?", [.int 1, .int 1, .null]⟩ := by decide
  have hrow : s.bindRow row = .ok [.int 1, .int 1] := rfl
  obtain ⟨-, hbyPlace, hbyRow⟩ := only_list_columns_bind_behind_two s
  obtain ⟨hlone, hitems, -⟩ := hbyRow row _ hrow
  exact ⟨hplaced, (hbyPlace .question values _ hplaced).1, hrow, hlone,
    hitems _ rfl⟩

/-- Two optionals around a scalar bind at a list column, by name and by
position, and fail at a column for one value. -/
theorem list_column_binds_behind_two :
    let s : Statement :=
      ⟨"q", .select, "SELECT * FROM t WHERE id IN (:ids[]) AND a = :a", [],
        [⟨"ids", 30, .list⟩, ⟨"a", 41, .single⟩],
        "SELECT * FROM t WHERE id IN (?) AND a = ?",
        "SELECT * FROM t WHERE id IN (?) AND a = ?"⟩
    let two : Param := .optional (some (.optional (some (.scalar (.int 1)))))
    (Statement.raw s.id s.kind s.text []).normalize .question = .ok s ∧
      two.isNested = true ∧
      s.bindNamed .question [("ids", two), ("a", .scalar (.int 2))] =
        .ok ⟨s.resolved, [.int 1, .int 2]⟩ ∧
      s.bindPositional .question [two, .scalar (.int 2)] =
        .ok ⟨s.resolved, [.int 1, .int 2]⟩ ∧
      s.bindNamed .question [("ids", .scalar (.int 1)), ("a", two)] =
        .error (.param .nestedOptional) := by
  intro s two
  have hnormal :
      (Statement.raw s.id s.kind s.text []).normalize .question = .ok s :=
    Statement.normalize_eq_ok_iff.mpr
      ⟨"SELECT * FROM t WHERE id IN (".toList.map .plain ++
      .slot ['i', 'd', 's'] .list ::
        (") AND a = ".toList.map .plain ++ [.slot ['a'] .single]),
      Template.items_eq_ok_iff.mpr ⟨by decide, by decide⟩, by decide⟩
  exact ⟨hnormal, rfl, by decide, by decide, by decide⟩

end Statement

end NamedSql
