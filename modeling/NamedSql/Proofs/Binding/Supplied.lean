import NamedSql.Proofs.Fallible
import NamedSql.Binding

/-!
What a parameter supplies to a column, apart from how it is found. A single
column takes a scalar; a list column takes a list, and what is no list counts as
a list of one. Binding a column succeeds exactly where the parameter supplies
values, and what goes wrong is a fault of the parameters.
-/

namespace NamedSql

/-- A fault that lies with the parameters: no backend was asked. -/
def Cause.ofParameters : Cause → Bool
  | .param _ => true
  | .bind _ => true
  | _ => false

namespace Param

/-- The parameter stands for one value: a scalar, or an optional around one or
around nothing. -/
inductive IsScalar : Param → Value → Prop where
  | scalar (value : Value) : IsScalar (.scalar value) value
  | nothing : IsScalar (.optional none) .null
  | held (value : Value) : IsScalar (.optional (some (.scalar value))) value

theorem toScalar_eq_ok_iff {column : String} {p : Param} {value : Value} :
    p.toScalar column = .ok value ↔ p.IsScalar value := by
  constructor
  · intro h
    fun_induction toScalar column p with
    | case1 value =>
        cases h
        exact .scalar value
    | case2 =>
        cases h
        exact .nothing
    | case4 inner hsingle ih =>
        -- inside an optional only a scalar is left: the other shapes fail
        cases ih h with
        | scalar value => exact .held value
        | nothing => exact absurd rfl (hsingle _)
        | held value => exact absurd rfl (hsingle _)
    | case3 | case5 | case6 | case7 | case8 => cases h
  · rintro (_ | _ | _)
    · rfl
    · rfl
    · rfl

theorem toScalar_error {column : String} {p : Param} {cause : Cause}
    (h : p.toScalar column = .error cause) : cause.ofParameters := by
  fun_induction toScalar column p with
  | case1 | case2 => cases h
  | case4 inner hsingle ih => exact ih h
  | case3 | case5 | case6 | case7 | case8 =>
      cases h
      rfl

/-- The values that a parameter supplies to a column. An empty list supplies a
null, and what is no list supplies itself. -/
inductive Supplies : SlotMode → Param → List Value → Prop where
  | single {p : Param} {value : Value} (scalar : p.IsScalar value) :
      Supplies .single p [value]
  | empty {p : Param} (holds : p.unwrapped = .sequence []) :
      Supplies .list p [.null]
  | elements {p first : Param} {others : List Param} {values : List Value}
      (holds : p.unwrapped = .sequence (first :: others))
      (scalars : List.Forall₂ IsScalar (first :: others) values) :
      Supplies .list p values
  | lone {p : Param} {value : Value}
      (holds_none : ∀ items, p.unwrapped ≠ .sequence items)
      (scalar : p.unwrapped.IsScalar value) : Supplies .list p [value]

theorem Supplies.length_pos {mode : SlotMode} {p : Param} {values : List Value}
    (h : p.Supplies mode values) : 0 < values.length := by
  cases h with
  | elements holds scalars =>
      rw [← scalars.length_eq]
      exact Nat.succ_pos _
  | single | empty | lone => exact Nat.one_pos

theorem toScalars_eq_ok_iff {column : String} {p : Param}
    {values : List Value} :
    p.toScalars column = .ok values ↔ p.Supplies .list values := by
  constructor
  · intro h
    rw [toScalars] at h
    split at h
    · next holds =>
        obtain rfl := Except.ok.inj h
        exact .empty holds
    · next items hne holds =>
        rw [Fallible.mapM_eq_ok_iff] at h
        cases items with
        | nil => exact absurd rfl hne
        | cons first others =>
            exact .elements holds (h.imp fun _ _ => toScalar_eq_ok_iff.mp)
    · next hother =>
        cases hscalar : p.unwrapped.toScalar column with
        | error e =>
            rw [hscalar] at h
            cases h
        | ok value =>
            rw [hscalar] at h
            obtain rfl := Except.ok.inj h
            exact .lone hother (toScalar_eq_ok_iff.mp hscalar)
  · intro h
    rw [toScalars]
    cases h with
    | empty holds => simp [holds]
    | elements holds scalars =>
        simp only [holds]
        rw [Fallible.mapM_eq_ok_iff]
        exact scalars.imp fun _ _ => toScalar_eq_ok_iff.mpr
    | lone holds_none scalar =>
        split
        · next holds => exact absurd holds (holds_none _)
        · next holds => exact absurd holds (holds_none _)
        · rw [toScalar_eq_ok_iff.mpr scalar]
          rfl

theorem toScalars_error {column : String} {p : Param} {cause : Cause}
    (h : p.toScalars column = .error cause) : cause.ofParameters := by
  rw [toScalars] at h
  split at h
  · cases h
  · obtain ⟨item, -, hitem⟩ := Fallible.exists_of_mapM_eq_error h
    exact toScalar_error hitem
  · exact toScalar_error (Fallible.map_eq_error_iff.mp h)

end Param

namespace Statement

/-- A list of values passes where each of them stands for one value. -/
theorem exists_scalarsFrom_iff {s : Statement} {index : Nat}
    {params : List Param} :
    (∃ values, s.scalarsFrom index params = .ok values) ↔
      ∀ p ∈ params, ∃ value, p.IsScalar value := by
  induction params generalizing index with
  | nil => simp [scalarsFrom]
  | cons p rest ih =>
      rw [scalarsFrom, List.forall_mem_cons]
      constructor
      · rintro ⟨values, h⟩
        obtain ⟨value, hvalue, h⟩ := Fallible.bind_eq_ok_iff.mp h
        obtain ⟨others, hothers, -⟩ := Fallible.bind_eq_ok_iff.mp h
        exact ⟨⟨value, Param.toScalar_eq_ok_iff.mp hvalue⟩,
          ih.mp ⟨others, hothers⟩⟩
      · rintro ⟨⟨value, hvalue⟩, hrest⟩
        obtain ⟨others, hothers⟩ := ih.mpr hrest
        refine ⟨value :: others, ?_⟩
        rw [Param.toScalar_eq_ok_iff.mpr hvalue, hothers]
        rfl

/-- Without list columns the text stays, and all values are passed on. -/
theorem bindPositional_of_single {s : Statement} (dialect : Dialect)
    {params : List Param} (hsingle : s.hasList = false)
    (henough : s.columns.length ≤ params.length) :
    s.bindPositional dialect params =
      Binding.mk s.resolved <$> s.scalarsFrom 0 params := by
  have hcount : ¬params.length < s.columns.length := Nat.not_lt.mpr henough
  have hnone : ¬s.hasList = true := by simp [hsingle]
  rw [bindPositional, if_neg hcount, if_neg hnone]
  rfl

/-- Binding columns fails where a value is looked up, where one does not
convert, or at a second list of several values. -/
theorem exists_of_go_eq_error {dialect : Dialect} {s : Statement}
    {lookup : Nat → Column → Except Cause Param} {index : Nat}
    {columns : List Column} {arguments : List Value} {widened : Option String}
    {cause : Cause}
    (h : bindColumns.go dialect s lookup index columns arguments widened =
      .error cause) :
    (∃ place, ∃ column ∈ columns, lookup place column = .error cause) ∨
      (∃ p name, Param.toScalars name p = .error cause) ∨
      (∃ p name, Param.toScalar name p = .error cause) ∨
      cause = .bind .severalLists := by
  induction columns generalizing index arguments widened with
  | nil => cases h
  | cons column rest ih =>
      have hbehind {index : Nat} {arguments : List Value}
          {widened : Option String}
          (hrest : bindColumns.go dialect s lookup index rest arguments
            widened = .error cause) :
          (∃ place, ∃ found ∈ column :: rest,
            lookup place found = .error cause) ∨
            (∃ p name, Param.toScalars name p = .error cause) ∨
            (∃ p name, Param.toScalar name p = .error cause) ∨
            cause = .bind .severalLists :=
        (ih hrest).imp_left fun ⟨place, found, hmem, hfound⟩ =>
          ⟨place, found, List.mem_cons_of_mem column hmem, hfound⟩
      rw [bindColumns.go] at h
      rcases Fallible.bind_eq_error_iff.mp h with hlookup | ⟨p, -, h⟩
      · exact .inl ⟨index, column, List.mem_cons_self, hlookup⟩
      split at h
      · rcases Fallible.bind_eq_error_iff.mp h with hvalues | ⟨values, -, h⟩
        · exact .inr (.inl ⟨p, column.name, hvalues⟩)
        split at h
        · split at h
          · exact .inr (.inr (.inr (Except.error.inj h).symm))
          · exact hbehind h
        · exact hbehind h
      · rcases Fallible.bind_eq_error_iff.mp h with hvalue | ⟨value, -, h⟩
        · exact .inr (.inr (.inl ⟨p, column.name, hvalue⟩))
        · exact hbehind h

/-- Where looking a value up fails by a fault of the parameters, so does binding
the columns. -/
theorem bindColumns_error {dialect : Dialect} {s : Statement}
    {lookup : Nat → Column → Except Cause Param} {cause : Cause}
    (hlookup : ∀ place column cause, lookup place column = .error cause →
      cause.ofParameters)
    (h : s.bindColumns dialect lookup = .error cause) : cause.ofParameters := by
  obtain ⟨place, column, -, hcolumn⟩ | ⟨p, name, hvalues⟩ | ⟨p, name,
      hvalue⟩ | rfl :=
    exists_of_go_eq_error h
  · exact hlookup place column cause hcolumn
  · exact Param.toScalars_error hvalues
  · exact Param.toScalar_error hvalue
  · rfl

theorem scalarsFrom_error {s : Statement} {index : Nat} {values : List Param}
    {cause : Cause} (h : s.scalarsFrom index values = .error cause) :
    cause.ofParameters := by
  induction values generalizing index with
  | nil => cases h
  | cons p rest ih =>
      rw [scalarsFrom] at h
      rcases Fallible.bind_eq_error_iff.mp h with hvalue | ⟨value, -, h⟩
      · exact Param.toScalar_error hvalue
      rcases Fallible.bind_eq_error_iff.mp h with hrest | ⟨_, -, h⟩
      · exact ih hrest
      · cases h

theorem bindPositional_error {dialect : Dialect} {s : Statement}
    {values : List Param} {cause : Cause}
    (h : s.bindPositional dialect values = .error cause) :
    cause.ofParameters := by
  rw [bindPositional] at h
  split at h
  · cases h
    rfl
  split at h
  · refine bindColumns_error (fun place column cause hplace => ?_) h
    split at hplace
    · cases hplace
    · cases hplace
      rfl
  · rcases Fallible.bind_eq_error_iff.mp h with hvalues | ⟨_, -, h⟩
    · exact scalarsFrom_error hvalues
    · cases h

theorem lookupNamed_error {values : NamedParams} {column : Column}
    {cause : Cause} (h : lookupNamed values column = .error cause) :
    cause.ofParameters := by
  rw [lookupNamed] at h
  split at h
  · cases h
  · cases h
    rfl

theorem bindNamed_error {dialect : Dialect} {s : Statement}
    {values : NamedParams} {cause : Cause}
    (h : s.bindNamed dialect values = .error cause) : cause.ofParameters :=
  bindColumns_error (fun _ _ _ => lookupNamed_error) h

theorem bindRowNamed_error {s : Statement} {values : NamedParams}
    {cause : Cause} (h : s.bindRowNamed values = .error cause) :
    cause.ofParameters := by
  obtain ⟨column, -, hcolumn⟩ := Fallible.exists_of_mapM_eq_error h
  rcases Fallible.bind_eq_error_iff.mp hcolumn with hlookup | ⟨p, -, hvalue⟩
  · exact lookupNamed_error hlookup
  · exact Param.toScalar_error hvalue

/-- A row of a batch fails to bind only by a fault of the parameters. -/
theorem bindRow_error {s : Statement} {row : Param} {cause : Cause}
    (h : s.bindRow row = .error cause) : cause.ofParameters := by
  rw [bindRow] at h
  split at h
  · cases h
    rfl
  · split at h
    · cases h
      rfl
    · obtain ⟨_, -, hitem⟩ := Fallible.exists_of_mapM_eq_error h
      exact Param.toScalar_error hitem
  · split at h
    · cases h
      rfl
    · exact bindRowNamed_error h
  · exact bindRowNamed_error h
  · cases h
    rfl

end Statement

end NamedSql
