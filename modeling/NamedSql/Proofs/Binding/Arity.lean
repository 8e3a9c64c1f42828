import NamedSql.Execute
import NamedSql.Proofs.Binding.Alignment
import Mathlib.Algebra.BigOperators.Group.List.Basic

/-!
How many arguments a binding has. Whichever way the values are found, a binding
that succeeds has an argument for each column at least; a row of a batch has one
for each column. Only a call without parameters is bound without a look at the
columns.
-/

namespace NamedSql

/-- A call is arranged without values only where it has no parameters. -/
theorem Arrangement.parameters_of_classify_empty {s : Statement}
    {parameters : List Param} {mode : CallMode}
    (h : classify s parameters mode = .ok .empty) : parameters = [] := by
  cases parameters with
  | nil => rfl
  | cons first others =>
      exfalso
      rw [classify] at h
      obtain ⟨p, -, h⟩ := Fallible.bind_eq_ok_iff.mp h
      cases p with
      | erased | optional => cases h
      | scalar | record => cases h
      | mapping entries =>
          obtain ⟨values, -, h⟩ := Fallible.bind_eq_ok_iff.mp h
          cases h
      | sequence items =>
          simp only [ofList.eq_def] at h
          split at h
          · cases h
          · split at h
            · cases h
            · cases h
            · cases h

namespace Statement

variable {dialect : Dialect} {s : Statement}

theorem length_scalarsFrom {index : Nat} {params : List Param}
    {values : List Value} (h : s.scalarsFrom index params = .ok values) :
    values.length = params.length := by
  induction params generalizing index values with
  | nil =>
      rw [scalarsFrom] at h
      obtain rfl := Except.ok.inj h
      rfl
  | cons p rest ih =>
      rw [scalarsFrom] at h
      obtain ⟨value, -, h⟩ := Fallible.bind_eq_ok_iff.mp h
      obtain ⟨others, hothers, h⟩ := Fallible.bind_eq_ok_iff.mp h
      obtain rfl := Except.ok.inj h
      rw [List.length_cons, List.length_cons, ih hothers]

/-- No column goes without a value, so the arguments are as many as the columns
or more. -/
theorem length_columns_le_of_bindColumns
    {lookup : Nat → Column → Except Cause Param} {binding : Binding}
    (h : s.bindColumns dialect lookup = .ok binding) :
    s.columns.length ≤ binding.arguments.length := by
  obtain ⟨supplied, hfills, -, -, harguments⟩ := exists_fills_of_go h
  have hpos : ∀ count ∈ supplied.map List.length, 1 ≤ count :=
    List.forall_mem_map.mpr hfills.length_pos
  calc s.columns.length = (supplied.map List.length).length := by
        rw [List.length_map, hfills.length_supplied]
    _ ≤ (supplied.map List.length).sum := List.length_le_sum_of_one_le _ hpos
    _ = binding.arguments.length := by
      rw [harguments, List.nil_append, List.length_flatten]

theorem length_columns_le_of_bindPositional {values : List Param}
    {binding : Binding} (h : s.bindPositional dialect values = .ok binding) :
    s.columns.length ≤ binding.arguments.length := by
  rw [bindPositional] at h
  split at h
  · cases h
  · next henough =>
      split at h
      · exact length_columns_le_of_bindColumns h
      · obtain ⟨arguments, harguments, h⟩ := Fallible.bind_eq_ok_iff.mp h
        obtain rfl := Except.ok.inj h
        rw [length_scalarsFrom harguments]
        omega

/-- A call that has parameters is bound to arguments for all columns. -/
theorem length_columns_le_of_bind {arrangement : Arrangement}
    {binding : Binding} (hgiven : arrangement ≠ .empty)
    (h : s.bind dialect arrangement = .ok binding) :
    s.columns.length ≤ binding.arguments.length := by
  cases arrangement with
  | empty => exact absurd rfl hgiven
  | positional values => exact length_columns_le_of_bindPositional h
  | named values presence => exact length_columns_le_of_bindColumns h
  | rows rows => cases h

/-- Either there are arguments for all columns, or there are none for want of
parameters. -/
theorem length_columns_le_or_none {parameters : List Param} {mode : CallMode}
    {arrangement : Arrangement} {binding : Binding}
    (harranged : Arrangement.classify s parameters mode = .ok arrangement)
    (h : s.bind dialect arrangement = .ok binding) :
    s.columns.length ≤ binding.arguments.length ∨
      parameters = [] ∧ binding.arguments = [] := by
  by_cases hempty : arrangement = .empty
  · subst hempty
    obtain rfl := Except.ok.inj h
    exact .inr ⟨Arrangement.parameters_of_classify_empty harranged, rfl⟩
  · exact .inl (length_columns_le_of_bind hempty h)

theorem length_bindRowNamed {values : NamedParams} {arguments : List Value}
    (h : s.bindRowNamed values = .ok arguments) :
    arguments.length = s.columns.length :=
  (Fallible.mapM_eq_ok_iff.mp h).length_eq.symm

theorem length_bindRow {row : Param} {arguments : List Value}
    (h : s.bindRow row = .ok arguments) :
    arguments.length = s.columns.length := by
  rw [bindRow] at h
  split at h
  · cases h
  · next items hpresent =>
      split at h
      · cases h
      · have hpairs := (Fallible.mapM_eq_ok_iff.mp h).length_eq
        rw [List.length_zip] at hpairs
        omega
  · split at h
    · cases h
    · exact length_bindRowNamed h
  · exact length_bindRowNamed h
  · cases h

/-- Where no column takes a list the text stays as it is, and each column has
the one value that is found for it. -/
theorem go_of_single {lookup : Column → Except Cause Param} {index : Nat}
    {columns : List Column} (hsingle : columns.any Column.takesList = false)
    (arguments : List Value) (widened : Option String) :
    bindColumns.go dialect s (fun _ column => lookup column) index columns
        arguments widened =
      (fun values => ⟨widened.getD s.resolved, arguments ++ values⟩) <$>
        columns.mapM (fun column => lookup column >>= fun p =>
          p.toScalar column.name) := by
  induction columns generalizing index arguments with
  | nil => simp [bindColumns.go, pure, Except.pure, Functor.map, Except.map]
  | cons column rest ih =>
      obtain ⟨hcolumn, hrest⟩ :
          column.takesList = false ∧ rest.any Column.takesList = false := by
        simpa using hsingle
      rw [bindColumns.go, List.mapM_cons]
      simp only [hcolumn, Bool.false_eq_true, if_false, ih hrest]
      generalize rest.mapM
        (fun column => lookup column >>= fun p => p.toScalar column.name) =
        others
      rcases lookup column with cause | p
      · rfl
      · rcases hvalue : p.toScalar column.name with cause | value
        · simp [hvalue, Bind.bind, Except.bind, Functor.map, Except.map]
        · rcases others with cause | values
          · simp [hvalue, Bind.bind, Except.bind, Functor.map, Except.map]
          · simp [hvalue, Bind.bind, Except.bind, Functor.map, Except.map, pure,
              Except.pure]

/-- By name a statement without list columns gets the arguments of a row. -/
theorem bindNamed_eq_bindRowNamed (hsingle : s.hasList = false)
    (values : NamedParams) :
    s.bindNamed dialect values =
      Binding.mk s.resolved <$> s.bindRowNamed values :=
  go_of_single hsingle [] none

end Statement

end NamedSql
