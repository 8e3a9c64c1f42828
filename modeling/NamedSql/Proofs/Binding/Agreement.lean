import NamedSql.Proofs.Batch.Acceptance

/-!
The ways of binding agree. A statement without list columns takes the values of
its columns from a list or by name in a call, and from a list, a mapping or a
record as a row of a batch. Where each column has the same value in all of them,
the arguments are the same, and so is the first failure.
-/

namespace NamedSql.Statement

variable {s : Statement}

/-- The values of columns that take one each, up to the first that does not
convert. -/
def scalarsOf (columns : List Column) (params : List Param) :
    Except Cause (List Value) :=
  (columns.zip params).mapM fun (column, p) => p.toScalar column.name

theorem scalarsOf_cons (column : Column) (columns : List Column) (p : Param)
    (params : List Param) : scalarsOf (column :: columns) (p :: params) = do
      let value ← p.toScalar column.name
      let values ← scalarsOf columns params
      return value :: values := by
  rw [scalarsOf, List.zip_cons_cons, List.mapM_cons]
  rfl

theorem columnNameAt_of_getElem? {index : Nat} {column : Column}
    (h : s.columns[index]? = some column) :
    s.columnNameAt index = column.name := by
  rw [columnNameAt, h]

/-- By position a value is reported under the name of the column at its
index. -/
theorem scalarsFrom_eq_scalarsOf {index : Nat} {columns : List Column}
    {params : List Param} (hcolumns : s.columns.drop index = columns)
    (hlength : params.length = columns.length) :
    s.scalarsFrom index params = scalarsOf columns params := by
  induction params generalizing index columns with
  | nil =>
      obtain rfl : columns = [] := List.eq_nil_of_length_eq_zero hlength.symm
      rfl
  | cons p rest ih =>
      cases columns with
      | nil => cases hlength
      | cons column others =>
          have hcolumn : s.columns[index]? = some column := by
            rw [← List.head?_drop, hcolumns, List.head?_cons]
          have hothers : s.columns.drop (index + 1) = others := by
            rw [← List.tail_drop, hcolumns, List.tail_cons]
          have hrest := ih hothers (Nat.succ.inj hlength)
          rw [scalarsFrom, columnNameAt_of_getElem? hcolumn, hrest,
            scalarsOf_cons]

/-- By name each column takes the value that is found for it, so a list of these
values does. -/
theorem bindRowNamed_eq_scalarsOf {values : NamedParams} {params : List Param}
    (hgives : List.Forall₂ (fun column p => values.find? column.name = some p)
      s.columns params) :
    s.bindRowNamed values = scalarsOf s.columns params := by
  rw [bindRowNamed]
  generalize s.columns = columns at hgives ⊢
  induction hgives with
  | nil => rfl
  | @cons column p columns params hfound _ ih =>
      have hlookup : lookupNamed values column = .ok p := by
        rw [lookupNamed, hfound]
      rw [List.mapM_cons, ih, hlookup, scalarsOf_cons]
      rfl

theorem bindRow_of_sequence {row : Param} {params : List Param}
    (hrow : row.present = .ok (.sequence params))
    (hlength : params.length = s.columns.length) :
    s.bindRow row = scalarsOf s.columns params := by
  have henough : ¬params.length < s.columns.length := by omega
  simp only [bindRow, hrow, if_neg henough]
  rfl

/-- A list with one value for each column and a mapping or record that gives
each column the same value bind alike, in a call and as a row: to the same
arguments, or to the same failure. -/
theorem bindings_agree (dialect : Dialect) (hsingle : s.hasList = false)
    {params : List Param} {values : NamedParams} {kind : String}
    {list row : Param} (hlist : list.present = .ok (.sequence params))
    (hrow : Batch.NamedRow kind row values)
    (hgives : List.Forall₂ (fun column p => values.find? column.name = some p)
      s.columns params) :
    s.bindRow row = s.bindRow list ∧
      s.bindPositional dialect params =
        Binding.mk s.resolved <$> s.bindRow list ∧
      s.bindNamed dialect values =
        Binding.mk s.resolved <$> s.bindRow list := by
  have hlength : params.length = s.columns.length := hgives.length_eq.symm
  have hlisted : s.bindRow list = scalarsOf s.columns params :=
    bindRow_of_sequence hlist hlength
  have hnamed : s.bindRowNamed values = scalarsOf s.columns params :=
    bindRowNamed_eq_scalarsOf hgives
  refine ⟨?_, ?_, ?_⟩
  · rw [hrow.bindRow_eq, hnamed, hlisted]
  · have hplaced : s.scalarsFrom 0 params = scalarsOf s.columns params :=
      scalarsFrom_eq_scalarsOf List.drop_zero hlength
    rw [bindPositional_of_single dialect hsingle hlength.ge, hplaced, hlisted]
  · rw [bindNamed_eq_bindRowNamed hsingle, hnamed, hlisted]

/-- A name stands in two slots, one value is behind an optional, and the failure
of the second value comes before that of the fourth. -/
theorem bindings_agree_on_first_failure :
    let s : Statement :=
      ⟨"add", .insert, "insert into t values (:a, :b, :a, :c)", [],
        [⟨"a", 23, .single⟩, ⟨"b", 26, .single⟩, ⟨"a", 29, .single⟩,
          ⟨"c", 32, .single⟩],
        "insert into t values (?, ?, ?, ?)",
        "insert into t values ($1, $2, $3, $4)"⟩
    let one : Param := .optional (some (.scalar (.int 1)))
    let nested : Param := .optional (some (.optional none))
    let params : List Param := [one, nested, one, .sequence []]
    let values : NamedParams :=
      [("c", .sequence []), ("a", nested), ("b", nested), ("a", one)]
    let row : Param := .optional (some (.record values))
    (Statement.raw s.id s.kind s.text []).normalize .dollar = .ok s ∧
      s.hasList = false ∧
      Batch.NamedRow "record" row values ∧
      List.Forall₂ (fun column p => values.find? column.name = some p) s.columns
        params ∧
      s.bindRow (.sequence params) = .error (.param .nestedOptional) ∧
      s.bindRow row = .error (.param .nestedOptional) ∧
      s.bindPositional .dollar params = .error (.param .nestedOptional) ∧
      s.bindNamed .dollar values = .error (.param .nestedOptional) := by
  intro s one nested params values row
  have hnormal :
      (Statement.raw s.id s.kind s.text []).normalize .dollar = .ok s :=
    Statement.normalize_eq_ok_iff.mpr
      ⟨"insert into t values (".toList.map .plain ++
      [.slot ['a'] .single, .plain ',', .plain ' ', .slot ['b'] .single,
        .plain ',', .plain ' ', .slot ['a'] .single, .plain ',', .plain ' ',
        .slot ['c'] .single, .plain ')'],
      Template.items_eq_ok_iff.mpr ⟨by decide, by decide⟩, by decide⟩
  have hrow : Batch.NamedRow "record" row values := .record rfl
  have hgives :
      List.Forall₂ (fun column p => values.find? column.name = some p) s.columns
      params := .cons rfl (.cons rfl (.cons rfl (.cons rfl .nil)))
  have hlisted :
      s.bindRow (.sequence params) = .error (.param .nestedOptional) := rfl
  have hpresent :
      (Param.sequence params).present = .ok (.sequence params) := rfl
  have hagree := bindings_agree .dollar rfl hpresent hrow hgives
  rw [hlisted] at hagree
  exact ⟨hnormal, rfl, hrow, hgives, hlisted, hagree⟩

end NamedSql.Statement
