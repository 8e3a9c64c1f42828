import NamedSql.Proofs.Binding.Columns
import NamedSql.Proofs.Statement.Normal
import NamedSql.Proofs.Template.Rendering

/-!
Arguments and placeholders. A binding that succeeds has one argument for each
placeholder of its SQL: the statement's text is filled, slot by slot, with as
many placeholders as there are values for the column, and the arguments are
these values in the same order.
-/

namespace NamedSql.Statement

open Template

variable {dialect : Dialect} {s : Statement}
  {lookup : Nat → Column → Except Cause Param}

/-- A column that was bound has found a parameter that supplies values to it. -/
theorem exists_supplies_of_go {index : Nat} {column : Column}
    {rest : List Column} {arguments : List Value} {widened : Option String}
    {binding : Binding}
    (h : bindColumns.go dialect s lookup index (column :: rest) arguments
      widened = .ok binding) :
    ∃ p values, lookup index column = .ok p ∧
      p.Supplies column.mode values := by
  rw [bindColumns.go] at h
  obtain ⟨p, hfound, h⟩ := Fallible.bind_eq_ok_iff.mp h
  obtain ⟨name, position, mode⟩ := column
  cases mode with
  | single =>
      obtain ⟨value, hvalue, -⟩ := Fallible.bind_eq_ok_iff.mp h
      exact ⟨p, [value], hfound, .single (Param.toScalar_eq_ok_iff.mp hvalue)⟩
  | list =>
      obtain ⟨values, hvalues, -⟩ := Fallible.bind_eq_ok_iff.mp h
      exact ⟨p, values, hfound, Param.toScalars_eq_ok_iff.mp hvalues⟩

/-- What binding comes to where it succeeds: the columns get their values, one
of them at most several, and at that column the text is widened. -/
theorem exists_fills_of_go {index : Nat} {columns : List Column}
    {arguments : List Value} {widened : Option String} {binding : Binding}
    (h : bindColumns.go dialect s lookup index columns arguments widened =
      .ok binding) :
    ∃ supplied, Fills lookup index columns supplied ∧
      (supplied.map List.length).countP (1 < ·) + widened.toList.length ≤ 1 ∧
      binding.sql =
        (((widened? s.held.toList columns (supplied.map List.length)).map
        fun held => String.ofList (dialect.render held)).or widened).getD
            s.resolved ∧
      binding.arguments = arguments ++ supplied.flatten := by
  induction columns generalizing index arguments widened with
  | nil =>
      rw [bindColumns.go] at h
      obtain rfl := Except.ok.inj h
      refine ⟨[], .nil index, ?_, rfl, (List.append_nil _).symm⟩
      cases widened <;> simp
  | cons column rest ih =>
      obtain ⟨p, values, hfound, hsupplies⟩ := exists_supplies_of_go h
      rw [go_cons hfound hsupplies] at h
      by_cases hmany : 1 < values.length
      · rw [if_pos hmany] at h
        cases widened with
        | some text => cases h
        | none =>
            rw [if_neg (by simp)] at h
            obtain ⟨others, hfills, hfew, hsql, harguments⟩ := ih h
            have hnone : (others.map List.length).countP (1 < ·) = 0 := by
              simpa using hfew
            have hnarrow : ∀ count ∈ others.map List.length, count ≤ 1 := by
              simpa using List.countP_eq_zero.mp hnone
            rw [widened?_of_narrow hnarrow] at hsql
            refine ⟨values :: others, .cons hfound hsupplies hfills, ?_, ?_, ?_⟩
            · rw [List.map_cons, List.countP_cons_of_pos (by simpa using hmany),
                hnone]
              simp
            · rw [hsql, List.map_cons, widened?, if_pos hmany]
              rfl
            · rw [harguments, List.flatten_cons, List.append_assoc]
      · rw [if_neg hmany] at h
        obtain ⟨others, hfills, hfew, hsql, harguments⟩ := ih h
        refine ⟨values :: others, .cons hfound hsupplies hfills, ?_, ?_, ?_⟩
        · rw [List.map_cons, List.countP_cons_of_neg (by simpa using hmany)]
          exact hfew
        · rw [hsql, List.map_cons, widened?, if_neg hmany]
        · rw [harguments, List.flatten_cons, List.append_assoc]

theorem Fills.length_supplied {index : Nat} {columns : List Column}
    {supplied : List (List Value)} (h : Fills lookup index columns supplied) :
    supplied.length = columns.length := by
  induction h with
  | nil index => rfl
  | cons _ _ _ ih => rw [List.length_cons, List.length_cons, ih]

/-- No column is left without a value. -/
theorem Fills.length_pos {index : Nat} {columns : List Column}
    {supplied : List (List Value)} (h : Fills lookup index columns supplied) :
    ∀ values ∈ supplied, 0 < values.length := by
  induction h with
  | nil index => exact List.forall_mem_nil _
  | cons _ supplies _ ih =>
      exact List.forall_mem_cons.mpr ⟨supplies.length_pos, ih⟩

/-- By name the parameters are those that the names of the columns find. -/
theorem Fills.supplied_named {values : NamedParams} {index : Nat}
    {columns : List Column} {supplied : List (List Value)}
    (h : Fills (fun _ column => lookupNamed values column) index columns
      supplied) :
    ∃ params, columns.mapM (lookupNamed values) = .ok params ∧
      Supplied columns params supplied := by
  induction h with
  | nil index => exact ⟨[], rfl, .nil⟩
  | @cons index column rest p given others found supplies _ ih =>
      obtain ⟨params, hparams, hsupplied⟩ := ih
      exact ⟨p :: params,
        Fallible.mapM_cons_eq_ok_iff.mpr ⟨p, params, found, hparams, rfl⟩,
        .cons supplies hsupplied⟩

/-- By position the parameters are those from the index on, one for each
column. -/
theorem Fills.supplied_positional {values : List Param} {index : Nat}
    {columns : List Column} {supplied : List (List Value)}
    (h : Fills lookup index columns supplied)
    (hlookup : ∀ index column p, lookup index column = .ok p →
      values[index]? = some p) :
    Supplied columns ((values.drop index).take columns.length) supplied := by
  induction h with
  | nil index => exact .nil
  | @cons index column rest p given others found supplies _ ih =>
      obtain ⟨hindex, rfl⟩ :=
        List.getElem?_eq_some_iff.mp (hlookup index column p found)
      rw [List.drop_eq_getElem_cons hindex, List.length_cons,
        List.take_succ_cons]
      exact .cons supplies ih

/-- The text that is rendered for the values supplied. -/
def handed (s : Statement) (supplied : List (List Value)) : List Char :=
  (widened? s.held.toList s.columns (supplied.map List.length)).getD
    s.held.toList

/-- The arguments are the values supplied, column by column, and there is one
placeholder for each of them, in the slot of the column that it was supplied
to. -/
structure Aligned (dialect : Dialect) (template : List Item) (s : Statement)
    (supplied : List (List Value)) (binding : Binding) : Prop where
  arguments : binding.arguments = supplied.flatten
  rendered : binding.sql = String.ofList (dialect.render (s.handed supplied))
  marks : (unquoted none (s.handed supplied)).count holdMark =
    binding.arguments.length
  filled : binding.sql =
    String.ofList
      (withSlots template (dialect.runs 0 (supplied.map List.length)))

/-- As many marks stand in the slot of a column as there are values for it. -/
theorem handed_eq_withSlots {normal : Statement} {template : List Item}
    {supplied : List (List Value)}
    (hcolumns : normal.columns = Template.columns template)
    (hheld : normal.held = String.ofList (heldText template))
    (hfills : Fills lookup 0 normal.columns supplied)
    (hfew : (supplied.map List.length).countP (1 < ·) ≤ 1) :
    normal.handed supplied =
      withSlots template ((supplied.map List.length).map marks) := by
  have hlength : (supplied.map List.length).length =
      (Template.columns template).length := by
    rw [List.length_map, hfills.length_supplied, hcolumns]
  rw [handed, hheld, hcolumns, String.toList_ofList]
  exact widened?_getD [] hlength
    (List.forall_mem_map.mpr hfills.length_pos) hfew

theorem exists_aligned_of_bindColumns {normal : Statement}
    {template : List Item} {binding : Binding}
    (htemplate : items s.text.toList = .ok template)
    (hnormal : s.normalize dialect = .ok normal)
    (hbare : holdMark ∉ unquoted none s.text.toList)
    (h : normal.bindColumns dialect lookup = .ok binding) :
    ∃ supplied, Fills lookup 0 normal.columns supplied ∧
      Aligned dialect template normal supplied binding := by
  obtain ⟨supplied, hfills, hfew, hsql, harguments⟩ := exists_fills_of_go h
  obtain ⟨found, hfound, hfields⟩ := normalize_eq_ok_iff.mp hnormal
  obtain rfl := Except.ok.inj (htemplate.symm.trans hfound)
  have hcolumns : normal.columns = Template.columns template := by rw [hfields]
  have hheld : normal.held = String.ofList (heldText template) := by
    rw [hfields]
  obtain ⟨hsource, hreadable⟩ := items_eq_ok_iff.mp htemplate
  have hsettled := settled_of_readable hreadable (hsource.symm ▸ hbare)
  have hhanded :=
    handed_eq_withSlots hcolumns hheld hfills (by simpa using hfew)
  have hlength : (supplied.map List.length).length =
      (Template.columns template).length := by
    rw [List.length_map, hfills.length_supplied, hcolumns]
  have hrendered : binding.sql =
      String.ofList (dialect.render (normal.handed supplied)) := by
    rw [hsql, Option.or_none, resolved_of_normalize hnormal, handed,
      Option.getD_map]
  refine ⟨supplied, hfills, harguments, hrendered, ?_, ?_⟩
  · rw [hhanded, count_unquoted_withSlots hsettled hlength, harguments,
      List.nil_append, List.length_flatten]
  · rw [hrendered, hhanded, Dialect.render, renderFrom_withSlots hsettled]

/-- Where the template has no mark of its own outside quotes, binding gives one
argument for each placeholder. By name that holds of every statement; by
position values beyond the columns are passed on where no column takes a
list. -/
theorem bind_aligned {normal : Statement}
    (hnormal : s.normalize dialect = .ok normal)
    (hbare : holdMark ∉ unquoted none s.text.toList) :
    ∃ template, items s.text.toList = .ok template ∧
      (∀ (values : NamedParams) (binding : Binding),
        normal.bindNamed dialect values = .ok binding →
        ∃ params supplied, normal.columns.mapM (lookupNamed values) =
          .ok params ∧
          Supplied normal.columns params supplied ∧
          Aligned dialect template normal supplied binding) ∧
      (∀ (values : List Param) (binding : Binding), normal.hasList = true →
        normal.bindPositional dialect values = .ok binding →
        ∃ supplied,
          Supplied normal.columns (values.take normal.columns.length) supplied ∧
          Aligned dialect template normal supplied binding) := by
  obtain ⟨template, htemplate, -⟩ := normalize_eq_ok_iff.mp hnormal
  refine ⟨template, htemplate, ?_, ?_⟩
  · intro values binding hbind
    obtain ⟨supplied, hfills, haligned⟩ :=
      exists_aligned_of_bindColumns htemplate hnormal hbare hbind
    obtain ⟨params, hparams, hsupplied⟩ := hfills.supplied_named
    exact ⟨params, supplied, hparams, hsupplied, haligned⟩
  · intro values binding hlist hbind
    rw [bindPositional, if_pos hlist] at hbind
    split at hbind
    · cases hbind
    · obtain ⟨supplied, hfills, haligned⟩ :=
        exists_aligned_of_bindColumns htemplate hnormal hbare hbind
      refine ⟨supplied, hfills.supplied_positional ?_, haligned⟩
      intro index column p hfound
      cases hvalue : values[index]? with
      | some found =>
          rw [hvalue] at hfound
          exact congrArg some (Except.ok.inj hfound)
      | none =>
          rw [hvalue] at hfound
          cases hfound

/-- One name stands for two columns, one list is empty and the other long, and a
quoted mark and a character of two bytes stand before them. -/
theorem bind_aligned_behind_quoted_mark :
    let s : Statement := .raw "q" .select "é'?':k IN (:i[],:j[]) :k" []
    let normal : Statement := { s with
      columns :=
        [⟨"k", 6, .single⟩, ⟨"i", 12, .list⟩, ⟨"j", 14, .list⟩,
          ⟨"k", 17, .single⟩]
      held := "é'?'? IN (?,?) ?"
      resolved := "é'?'$1 IN ($2,$3) $4" }
    let text : Param := .scalar (.text "?")
    let list : Param := .sequence [.scalar (.int 1), .optional none]
    let binding : Binding :=
      ⟨"é'?'$1 IN ($2,$3,$4) $5", [.text "?", .int 1, .null, .null, .text "?"]⟩
    s.normalize .dollar = .ok normal ∧ holdMark ∉ unquoted none s.text.toList ∧
      normal.bindNamed .dollar [("j", .sequence []), ("i", list), ("k", text)] =
        .ok binding ∧
      normal.bindPositional .dollar [text, list, .sequence [], text] =
        .ok binding ∧
      ∃ template named placed, Aligned .dollar template normal named binding ∧
        Aligned .dollar template normal placed binding ∧
        (unquoted none (normal.handed named)).count holdMark = 5 := by
  intro s normal text list binding
  have hitems : items s.text.toList = .ok (.plain 'é' :: .quoted '\'' ['?'] ::
      .slot ['k'] .single ::
      (" IN (".toList.map .plain ++ .slot ['i'] .list :: .plain ',' ::
        .slot ['j'] .list :: .plain ')' :: .plain ' ' ::
        [.slot ['k'] .single])) :=
    items_eq_ok_iff.mpr ⟨by decide, by decide⟩
  have hnormal : s.normalize .dollar = .ok normal :=
    normalize_eq_ok_iff.mpr ⟨_, hitems, by decide⟩
  have hbare : holdMark ∉ unquoted none s.text.toList := by decide
  have hnamed :
      normal.bindNamed .dollar [("j", .sequence []), ("i", list), ("k", text)] =
        .ok binding := by decide
  have hplaced :
      normal.bindPositional .dollar [text, list, .sequence [], text] =
        .ok binding := by decide
  obtain ⟨template, -, hbyName, hbyPlace⟩ := bind_aligned hnormal hbare
  obtain ⟨params, named, -, -, hfirst⟩ := hbyName _ _ hnamed
  obtain ⟨placed, -, hsecond⟩ := hbyPlace _ _ rfl hplaced
  exact ⟨hnormal, hbare, hnamed, hplaced, template, named, placed, hfirst,
    hsecond, hfirst.marks⟩

end NamedSql.Statement
