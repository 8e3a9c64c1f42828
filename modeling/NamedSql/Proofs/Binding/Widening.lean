import NamedSql.Proofs.Binding.Columns
import NamedSql.Proofs.Statement.Normal
import NamedSql.Proofs.Template.Holding

/-!
Widening a list is writing it out. The binding of a list of several values edits
the held text at the position of its column; the text that results is that of
the template in which the list slot stands as often as there are values, parted
by commas.
-/

namespace NamedSql.Statement

/-- Binding by name or by position: one list of several values, and one value at
most elsewhere. -/
theorem bind_of_wide (dialect : Dialect) {s : Statement} {params : List Param}
    {supplied : List (List Value)}
    (hsupplied : Supplied s.columns params supplied) {index : Nat}
    {column : Column} {elements : List Value}
    (hcolumn : s.columns[index]? = some column)
    (hlist : column.takesList = true)
    (helements : supplied[index]? = some elements) (hwide : 2 ≤ elements.length)
    (hothers : ∀ other found, other ≠ index → supplied[other]? = some found →
      found.length ≤ 1) :
    let widened := String.ofList (dialect.render
      (Template.expandHold s.held.toList column.position elements.length))
    (∀ values : NamedParams, s.columns.mapM (lookupNamed values) = .ok params →
      s.bindNamed dialect values = .ok ⟨widened, supplied.flatten⟩) ∧
    (∀ values : List Param, values.take s.columns.length = params →
      s.bindPositional dialect values = .ok ⟨widened, supplied.flatten⟩) := by
  refine ⟨?_, ?_⟩
  · intro values hvalues
    exact bindColumns_of_wide (hsupplied.fills_named hvalues 0) hcolumn
      helements hwide hothers
  · intro values hvalues
    have hlists : s.hasList = true := by
      rw [hasList, List.any_eq_true]
      exact ⟨column, List.mem_of_getElem? hcolumn, hlist⟩
    obtain ⟨lookup, hfills, hsame⟩ :=
      hsupplied.bindPositional_eq dialect hlists hvalues
    rw [hsame]
    exact bindColumns_of_wide hfills hcolumn helements hwide hothers

/-- Binding a list of several values at one column gives the text of the
template in which that slot is written out once for each of them, and the values
in the order of the columns. Every other column gets one value. -/
theorem bind_eq_written_out {dialect : Dialect} {s normal : Statement}
    (hnormal : s.normalize dialect = .ok normal) {params : List Param}
    {supplied : List (List Value)}
    (hsupplied : Supplied normal.columns params supplied) {index : Nat}
    {column : Column} {elements : List Value}
    (hcolumn : normal.columns[index]? = some column)
    (hlist : column.mode = .list) (helements : supplied[index]? = some elements)
    (hwide : 2 ≤ elements.length)
    (hothers : ∀ other found, other ≠ index → supplied[other]? = some found →
      found.length ≤ 1) :
    ∃ before name after written,
      -- the occurrence is the slot with `index` slots before it
      Template.items s.text.toList = .ok (before ++ .slot name .list :: after) ∧
      (Template.columns before).length = index ∧
      column.name = String.ofList name ∧
      s.text.toList = Template.source before ++ (':' :: name ++ ['[', ']']) ++
        Template.source after ∧
      Statement.normalize dialect { s with
        text := String.ofList (Template.source before ++
          [','].intercalate
            (List.replicate elements.length (':' :: name ++ ['[', ']'])) ++
          Template.source after) } = .ok written ∧
      (∀ values : NamedParams,
        normal.columns.mapM (lookupNamed values) = .ok params →
        normal.bindNamed dialect values =
          .ok ⟨written.resolved, supplied.flatten⟩) ∧
      (∀ values : List Param, values.take normal.columns.length = params →
        normal.bindPositional dialect values =
          .ok ⟨written.resolved, supplied.flatten⟩) := by
  obtain ⟨template, htemplate, hnormal⟩ := normalize_eq_ok_iff.mp hnormal
  have hcolumns : normal.columns = Template.columns template := by rw [hnormal]
  have hheld : normal.held = String.ofList (Template.heldText template) := by
    rw [hnormal]
  obtain ⟨before, name, after, rfl, hindex, hname, hposition⟩ :=
    Template.slot_of_columns (hcolumns ▸ hcolumn)
  rw [hlist] at htemplate hheld
  obtain ⟨hsource, hreadable⟩ := Template.items_eq_ok_iff.mp htemplate
  have hitems := Template.items_eq_ok_iff.mpr
    ⟨rfl, hreadable.writtenOut (by omega : 0 < elements.length)⟩
  have hwidened :
      Template.expandHold normal.held.toList column.position elements.length =
        Template.heldText
          (before ++ Template.writtenOut name elements.length ++ after) := by
    rw [hheld, String.toList_ofList, hposition, Template.expandHold_slot]
  have hbind := bind_of_wide dialect hsupplied hcolumn
    (by rw [Column.takesList, hlist]; rfl) helements hwide hothers
  rw [hwidened] at hbind
  refine ⟨before, name, after, _, htemplate, hindex, hname, ?_,
    normalize_eq_ok_iff.mpr ⟨_, ?_, rfl⟩, hbind.1, hbind.2⟩
  · rw [← hsource, Template.source_append, Template.source_cons,
      List.append_assoc]
    rfl
  · rw [String.toList_ofList, ← hitems, Template.source_append,
      Template.source_append, Template.source_writtenOut]
    rfl

/-- The list stands behind a character of two bytes, a quoted mark, a cast and a
bare mark, and another list behind it is empty. -/
theorem bind_two_behind_multibyte_text :
    let s : Statement := .raw "q" .select "é'?':k::t?:i[],:j[]" []
    let normal : Statement := { s with
      columns := [⟨"k", 6, .single⟩, ⟨"i", 11, .list⟩, ⟨"j", 13, .list⟩]
      held := "é'?'?::t??,?"
      resolved := "é'?'$1::t$2$3,$4" }
    let values : NamedParams :=
      [("i", .sequence [.scalar (.int 1), .optional none]),
        ("j", .sequence []), ("k", .scalar (.text "?"))]
    let supplied : List (List Value) := [[.text "?"], [.int 1, .null], [.null]]
    s.normalize .dollar = .ok normal ∧
    (∃ params, normal.columns.mapM (lookupNamed values) = .ok params ∧
      Supplied normal.columns params supplied) ∧
    ∃ before name after written, (Template.columns before).length = 1 ∧
      s.text.toList = Template.source before ++ (':' :: name ++ ['[', ']']) ++
        Template.source after ∧
      Statement.normalize .dollar { s with
        text := String.ofList (Template.source before ++
          [','].intercalate (List.replicate 2 (':' :: name ++ ['[', ']'])) ++
          Template.source after) } = .ok written ∧
      normal.bindNamed .dollar values =
        .ok ⟨written.resolved, supplied.flatten⟩ ∧
      written.resolved = "é'?'$1::t$2$3,$4,$5" := by
  intro s normal values supplied
  have hitems :
      Template.items s.text.toList = .ok [.plain 'é', .quoted '\'' ['?'],
        .slot ['k'] .single, .cast, .plain 't', .plain '?', .slot ['i'] .list,
        .plain ',', .slot ['j'] .list] :=
          Template.items_eq_ok_iff.mpr ⟨by decide, by decide⟩
  have hnormal : s.normalize .dollar = .ok normal :=
    normalize_eq_ok_iff.mpr ⟨_, hitems, by decide⟩
  have hparams : normal.columns.mapM (lookupNamed values) =
      .ok [.scalar (.text "?"), .sequence [.scalar (.int 1), .optional none],
        .sequence []] := rfl
  have hsupplied : Supplied normal.columns
      [.scalar (.text "?"), .sequence [.scalar (.int 1), .optional none],
          .sequence []] supplied :=
    .cons (.single (.scalar _))
      (.cons (.elements rfl (.cons (.scalar _) (.cons .nothing .nil)))
      (.cons (.empty rfl) .nil))
  have hcolumn : normal.columns[1]? = some ⟨"i", 11, .list⟩ := rfl
  have hothers : ∀ other found, other ≠ 1 → supplied[other]? = some found →
      found.length ≤ 1 := by
    rintro (_ | _ | _ | other) found hne hfound
    · cases hfound
      decide
    · exact absurd rfl hne
    · cases hfound
      decide
    · cases hfound
  obtain ⟨before, name, after, written, -, hindex, -, htext, hwritten,
      hnamed, -⟩ :=
    bind_eq_written_out hnormal hsupplied hcolumn rfl rfl (by decide) hothers
  have hbound : normal.bindNamed .dollar values =
      .ok ⟨"é'?'$1::t$2$3,$4,$5", supplied.flatten⟩ := by decide
  have hsame := (hnamed values hparams).symm.trans hbound
  exact ⟨hnormal, ⟨_, hparams, hsupplied⟩, before, name, after, written, hindex,
    htext, hwritten, hnamed values hparams,
    congrArg Binding.sql (Except.ok.inj hsame)⟩

end NamedSql.Statement
