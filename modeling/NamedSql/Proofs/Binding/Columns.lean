import NamedSql.Proofs.Binding.Supplied

/-!
Binding the columns of a statement to what is supplied to them. The arguments
are the supplied values in the order of the columns. The text stays as it is
while no column gets more than one value, and is widened at the one column that
does.
-/

namespace NamedSql.Statement

/-- From `index` on, what is found for the columns supplies the values. -/
inductive Fills (lookup : Nat → Column → Except Cause Param) :
    Nat → List Column → List (List Value) → Prop where
  | nil (index : Nat) : Fills lookup index [] []
  | cons {index : Nat} {column : Column} {rest : List Column} {p : Param}
      {values : List Value} {others : List (List Value)}
      (found : lookup index column = .ok p)
      (supplies : p.Supplies column.mode values)
      (fills : Fills lookup (index + 1) rest others) :
      Fills lookup index (column :: rest) (values :: others)

/-- The parameters supply values to the columns, one parameter to a column. -/
inductive Supplied : List Column → List Param → List (List Value) → Prop where
  | nil : Supplied [] [] []
  | cons {column : Column} {columns : List Column} {p : Param}
      {params : List Param} {values : List Value} {others : List (List Value)}
      (supplies : p.Supplies column.mode values)
      (supplied : Supplied columns params others) :
      Supplied (column :: columns) (p :: params) (values :: others)

theorem Supplied.length_params {columns : List Column} {params : List Param}
    {supplied : List (List Value)} (h : Supplied columns params supplied) :
    params.length = columns.length := by
  induction h with
  | nil => rfl
  | cons _ _ ih => rw [List.length_cons, List.length_cons, ih]

/-- By name each column finds its parameter, wherever it stands. -/
theorem Supplied.fills_named {columns : List Column} {params : List Param}
    {supplied : List (List Value)} (h : Supplied columns params supplied)
    {values : NamedParams}
    (hvalues : columns.mapM (lookupNamed values) = .ok params) (index : Nat) :
    Fills (fun _ column => lookupNamed values column) index columns
      supplied := by
  induction h generalizing index with
  | nil => exact .nil index
  | cons supplies _ ih =>
      obtain ⟨p, params, hfound, hrest, heq⟩ :=
        Fallible.mapM_cons_eq_ok_iff.mp hvalues
      obtain ⟨rfl, rfl⟩ := List.cons.inj heq
      exact .cons hfound supplies (ih hrest (index + 1))

/-- By position a column finds the parameter at its index. -/
theorem Supplied.fills_positional {columns : List Column} {params : List Param}
    {supplied : List (List Value)} (h : Supplied columns params supplied)
    {lookup : Nat → Column → Except Cause Param} {values : List Param}
    (hlookup : ∀ index column p, values[index]? = some p →
      lookup index column = .ok p)
    {index : Nat} (hvalues : (values.drop index).take columns.length = params) :
    Fills lookup index columns supplied := by
  induction h generalizing index with
  | nil => exact .nil index
  | @cons column _ _ _ _ _ supplies _ ih =>
      cases hdrop : values.drop index with
      | nil =>
          rw [hdrop] at hvalues
          cases hvalues
      | cons first others =>
          rw [hdrop, List.length_cons, List.take_succ_cons] at hvalues
          obtain ⟨rfl, hrest⟩ := List.cons.inj hvalues
          have hfirst : values[index]? = some first := by
            rw [← List.head?_drop, hdrop, List.head?_cons]
          have hothers : values.drop (index + 1) = others := by
            rw [← List.tail_drop, hdrop, List.tail_cons]
          exact .cons (hlookup index column first hfirst) supplies
            (ih (by rw [hothers, hrest]))

variable {dialect : Dialect} {s : Statement}
  {lookup : Nat → Column → Except Cause Param}

theorem Supplied.length_columns_le {params values : List Param}
    {supplied : List (List Value)} (h : Supplied s.columns params supplied)
    (hvalues : values.take s.columns.length = params) :
    s.columns.length ≤ values.length := by
  have htaken := congrArg List.length hvalues
  rw [List.length_take, h.length_params] at htaken
  omega

/-- Where some column takes a list, binding by position is binding each column
to the value at its index. -/
theorem Supplied.bindPositional_eq (dialect : Dialect)
    {params values : List Param} {supplied : List (List Value)}
    (h : Supplied s.columns params supplied) (hlist : s.hasList = true)
    (hvalues : values.take s.columns.length = params) :
    ∃ lookup, Fills lookup 0 s.columns supplied ∧
      s.bindPositional dialect values = s.bindColumns dialect lookup := by
  have henough : ¬values.length < s.columns.length :=
    Nat.not_lt.mpr (h.length_columns_le hvalues)
  have hstart : (values.drop 0).take s.columns.length = params := hvalues
  rw [bindPositional, if_neg henough, if_pos hlist]
  refine ⟨_, h.fills_positional ?_ hstart, rfl⟩
  intro index column p hp
  rw [hp]

/-- Binding one column: several values widen the text, which one column at most
may do. -/
theorem go_cons {index : Nat} {column : Column} {rest : List Column}
    {arguments values : List Value} {widened : Option String} {p : Param}
    (found : lookup index column = .ok p)
    (supplies : p.Supplies column.mode values) :
    bindColumns.go dialect s lookup index (column :: rest) arguments widened =
      if values.length > 1 then
        if widened.isSome then .error (.bind .severalLists)
        else
          bindColumns.go dialect s lookup (index + 1) rest (arguments ++ values)
          (some (String.ofList (dialect.render
            (Template.expandHold s.held.toList column.position values.length))))
      else
        bindColumns.go dialect s lookup (index + 1) rest (arguments ++ values)
          widened := by
  rw [bindColumns.go, found]
  obtain ⟨name, position, mode⟩ := column
  cases mode with
  | single =>
      cases supplies with
      | single scalar =>
          have hvalue : p.toScalar name = .ok _ :=
            Param.toScalar_eq_ok_iff.mpr scalar
          simp [bind, Except.bind, Column.takesList, hvalue]
  | list =>
      have hvalues : p.toScalars name = .ok values :=
        Param.toScalars_eq_ok_iff.mpr supplies
      simp [bind, Except.bind, Column.takesList, hvalues]

theorem go_cons_of_narrow {index : Nat} {column : Column} {rest : List Column}
    {arguments values : List Value} {widened : Option String} {p : Param}
    (found : lookup index column = .ok p)
    (supplies : p.Supplies column.mode values) (hnarrow : values.length ≤ 1) :
    bindColumns.go dialect s lookup index (column :: rest) arguments widened =
      bindColumns.go dialect s lookup (index + 1) rest (arguments ++ values)
        widened := by
  rw [go_cons found supplies, if_neg (by omega)]

theorem go_of_narrow {index : Nat} {columns : List Column}
    {supplied : List (List Value)} (h : Fills lookup index columns supplied)
    (hnarrow : ∀ values ∈ supplied, values.length ≤ 1) (arguments : List Value)
    (widened : Option String) :
    bindColumns.go dialect s lookup index columns arguments widened =
      .ok ⟨widened.getD s.resolved, arguments ++ supplied.flatten⟩ := by
  induction h generalizing arguments with
  | nil index => rw [bindColumns.go, List.flatten_nil, List.append_nil]
  | cons found supplies _ ih =>
      obtain ⟨hvalues, hothers⟩ := List.forall_mem_cons.mp hnarrow
      rw [go_cons_of_narrow found supplies hvalues, ih hothers,
        List.flatten_cons, List.append_assoc]

/-- One column gets several values, and all others get one at most. -/
theorem go_of_wide {index : Nat} {columns : List Column}
    {supplied : List (List Value)} (h : Fills lookup index columns supplied)
    {place : Nat} {column : Column} {values : List Value}
    (hcolumn : columns[place]? = some column)
    (hvalues : supplied[place]? = some values) (hwide : 1 < values.length)
    (hothers : ∀ other found, other ≠ place → supplied[other]? = some found →
      found.length ≤ 1) (arguments : List Value) :
    bindColumns.go dialect s lookup index columns arguments none =
      .ok ⟨String.ofList (dialect.render
        (Template.expandHold s.held.toList column.position values.length)),
        arguments ++ supplied.flatten⟩ := by
  induction h generalizing place arguments with
  | nil index => cases hcolumn
  | @cons index first rest p given others found supplies fills ih =>
      cases place with
      | zero =>
          obtain rfl := Option.some.inj hcolumn
          obtain rfl := Option.some.inj hvalues
          have hnarrow : ∀ values ∈ others, values.length ≤ 1 := by
            intro values hmem
            obtain ⟨other, hother⟩ := List.mem_iff_getElem?.mp hmem
            exact hothers (other + 1) values (by omega) hother
          rw [go_cons found supplies, if_pos hwide, if_neg (by simp),
            go_of_narrow fills hnarrow, List.flatten_cons, List.append_assoc]
          rfl
      | succ place =>
          have hgiven : given.length ≤ 1 := hothers 0 given (by omega) rfl
          have hrest (other : Nat) (values : List Value) (hne : other ≠ place)
              (hother : others[other]? = some values) : values.length ≤ 1 :=
            hothers (other + 1) values (by omega) hother
          rw [go_cons_of_narrow found supplies hgiven, ih hcolumn hvalues hrest,
            List.flatten_cons, List.append_assoc]

theorem bindColumns_of_wide {supplied : List (List Value)}
    (h : Fills lookup 0 s.columns supplied) {place : Nat} {column : Column}
    {values : List Value} (hcolumn : s.columns[place]? = some column)
    (hvalues : supplied[place]? = some values) (hwide : 1 < values.length)
    (hothers : ∀ other found, other ≠ place → supplied[other]? = some found →
      found.length ≤ 1) :
    s.bindColumns dialect lookup = .ok ⟨String.ofList (dialect.render
      (Template.expandHold s.held.toList column.position values.length)),
      supplied.flatten⟩ := by
  rw [bindColumns, go_of_wide h hcolumn hvalues hwide hothers, List.nil_append]

end NamedSql.Statement
