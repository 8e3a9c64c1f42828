import NamedSql.Proofs.Binding.Columns
import NamedSql.Proofs.Statement.Normal
import NamedSql.Proofs.Template.Reading

/-!
One list of several elements to a call. Where every column has a value of its
own kind, binding by name fails exactly if two list columns hold several
elements each, and so does binding by position where some column takes a list.
By position a statement without list columns passes on the values behind its
columns as well, and these have to convert too.
-/

namespace NamedSql

namespace Param

/-- A list of two elements or more, seen through one optional. -/
def holdsSeveral (p : Param) : Bool :=
  match p.unwrapped with
  | .sequence items => 1 < items.length
  | _ => false

/-- Several values are supplied to list columns only, and by lists of several
elements only. -/
theorem Supplies.several_iff {mode : SlotMode} {p : Param} {values : List Value}
    (h : p.Supplies mode values) :
    1 < values.length ↔ mode = .list ∧ p.holdsSeveral = true := by
  rw [holdsSeveral]
  cases h with
  | single scalar => simp
  | empty holds => simp [holds]
  | elements holds scalars => simp [holds, ← scalars.length_eq]
  | lone holds_none scalar =>
      split
      · next items holds => exact absurd holds (holds_none items)
      · simp

end Param

namespace Statement

variable {dialect : Dialect} {s : Statement}
  {lookup : Nat → Column → Except Cause Param}

/-- How many list columns hold several elements. -/
def expanding (columns : List Column) (params : List Param) : Nat :=
  (columns.zip params).countP fun (column, p) =>
    column.takesList && p.holdsSeveral

theorem Supplied.countP_several {columns : List Column} {params : List Param}
    {supplied : List (List Value)} (h : Supplied columns params supplied) :
    supplied.countP (fun values => 1 < values.length) =
      expanding columns params := by
  induction h with
  | nil => rfl
  | @cons column columns p params values others supplies _ ih =>
      have hseveral : decide (1 < values.length) =
          (column.takesList && p.holdsSeveral) := by
        rw [Bool.eq_iff_iff, decide_eq_true_iff, supplies.several_iff,
          Bool.and_eq_true, Column.takesList, beq_iff_eq]
      rw [expanding, List.zip_cons_cons, List.countP_cons, List.countP_cons, ih,
        hseveral]
      rfl

/-- Where all columns find values, they are bound or a second list of several
elements stops the binding; `widened` is there if a list of several came
before. -/
theorem Fills.go_cases (dialect : Dialect) (s : Statement) {index : Nat}
    {columns : List Column} {supplied : List (List Value)}
    (h : Fills lookup index columns supplied) (arguments : List Value)
    (widened : Option String) :
    let several :=
      supplied.countP (fun values => 1 < values.length) + widened.toList.length
    let outcome :=
      bindColumns.go dialect s lookup index columns arguments widened
    (several ≤ 1 ∧ ∃ binding, outcome = .ok binding) ∨
      (2 ≤ several ∧ outcome = .error (.bind .severalLists)) := by
  induction h generalizing arguments widened with
  | nil index =>
      left
      refine ⟨?_, _, rfl⟩
      cases widened <;> simp
  | @cons index column rest p values others found supplies fills ih =>
      rw [go_cons found supplies]
      by_cases hmany : 1 < values.length
      · rw [if_pos hmany, List.countP_cons_of_pos (by simpa using hmany)]
        cases widened with
        | some text =>
            right
            refine ⟨?_, rfl⟩
            simp only [Option.toList_some, List.length_singleton]
            omega
        | none =>
            -- the text is widened here, which counts for the columns behind
            have hbehind :=
              ih (arguments ++ values) (some (String.ofList (dialect.render
                (Template.expandHold s.held.toList column.position
                  values.length))))
            simpa using hbehind
      · rw [if_neg hmany, List.countP_cons_of_neg (by simpa using hmany)]
        exact ih (arguments ++ values) widened

/-- Binding columns that all find values fails for a second list of several
elements, and for nothing else. -/
theorem Fills.bindColumns_eq_error_iff {params : List Param}
    {supplied : List (List Value)} (h : Fills lookup 0 s.columns supplied)
    (hsupplied : Supplied s.columns params supplied) (cause : Cause) :
    s.bindColumns dialect lookup = .error cause ↔
      2 ≤ expanding s.columns params ∧ cause = .bind .severalLists := by
  have hcases := h.go_cases dialect s [] none
  simp only [hsupplied.countP_several, Option.toList_none, List.length_nil,
    Nat.add_zero] at hcases
  rw [bindColumns]
  rcases hcases with ⟨hfew, binding, hbound⟩ | ⟨hmany, hfails⟩
  · rw [hbound]
    constructor
    · intro hcause
      cases hcause
    · rintro ⟨hmany, -⟩
      omega
  · rw [hfails]
    constructor
    · intro hcause
      exact ⟨hmany, (Except.error.inj hcause).symm⟩
    · rintro ⟨-, rfl⟩
      rfl

theorem Supplied.scalars_of_single {columns : List Column} {params : List Param}
    {supplied : List (List Value)} (h : Supplied columns params supplied)
    (hsingle : columns.any Column.takesList = false) :
    ∀ p ∈ params, ∃ value, p.IsScalar value := by
  induction h with
  | nil => exact List.forall_mem_nil _
  | @cons column columns p params values others supplies _ ih =>
      obtain ⟨hcolumn, hrest⟩ :
          column.takesList = false ∧ columns.any Column.takesList = false := by
        simpa using hsingle
      have hmode : column.mode ≠ .list := by
        simpa [Column.takesList] using hcolumn
      refine List.forall_mem_cons.mpr ⟨?_, ih hrest⟩
      generalize column.mode = mode at supplies hmode
      cases supplies with
      | single scalar => exact ⟨_, scalar⟩
      | empty | elements | lone => exact absurd rfl hmode

/-- Without list columns all values are passed on, so each of them has to
convert. -/
theorem exists_bindPositional_iff_of_single {values : List Param}
    (hsingle : s.hasList = false) (henough : s.columns.length ≤ values.length) :
    (∃ binding, s.bindPositional dialect values = .ok binding) ↔
      ∀ p ∈ values, ∃ value, p.IsScalar value := by
  have hscalars : (∃ arguments, s.scalarsFrom 0 values = .ok arguments) ↔
      ∀ p ∈ values, ∃ value, p.IsScalar value := exists_scalarsFrom_iff
  rw [← hscalars, bindPositional_of_single dialect hsingle henough]
  constructor
  · rintro ⟨binding, h⟩
    obtain ⟨arguments, harguments, -⟩ := Fallible.map_eq_ok_iff.mp h
    exact ⟨arguments, harguments⟩
  · rintro ⟨arguments, harguments⟩
    exact ⟨_, Fallible.map_eq_ok_iff.mpr ⟨arguments, harguments, rfl⟩⟩

/-- Where each column has a value of its own kind, binding fails exactly if two
list columns hold several elements each, and it fails for that. By position this
holds where some column takes a list; where none does, the values behind the
columns are passed on as well, and binding fails exactly if one of these does
not convert. -/
theorem bind_fails_iff_two_expand (dialect : Dialect) {params : List Param}
    {supplied : List (List Value)}
    (hsupplied : Supplied s.columns params supplied) :
    (∀ values : NamedParams, s.columns.mapM (lookupNamed values) = .ok params →
      ∀ cause, s.bindNamed dialect values = .error cause ↔
        2 ≤ expanding s.columns params ∧ cause = .bind .severalLists) ∧
    (∀ values : List Param, values.take s.columns.length = params →
      (s.hasList = true → ∀ cause,
        s.bindPositional dialect values = .error cause ↔
        2 ≤ expanding s.columns params ∧ cause = .bind .severalLists) ∧
      (s.hasList = false →
        ((∃ cause, s.bindPositional dialect values = .error cause) ↔
        ∃ p ∈ values.drop s.columns.length, ∀ value, ¬p.IsScalar value))) := by
  refine ⟨?_, fun values hvalues => ⟨?_, ?_⟩⟩
  · intro values hvalues cause
    exact (hsupplied.fills_named hvalues 0).bindColumns_eq_error_iff
      hsupplied cause
  · intro hlist cause
    obtain ⟨lookup, hfills, hsame⟩ :=
      hsupplied.bindPositional_eq dialect hlist hvalues
    rw [hsame]
    exact hfills.bindColumns_eq_error_iff hsupplied cause
  · intro hsingle
    have hscalars := hsupplied.scalars_of_single hsingle
    have hall : (∀ p ∈ values, ∃ value, p.IsScalar value) ↔
        ∀ p ∈ values.drop s.columns.length, ∃ value, p.IsScalar value := by
      conv_lhs => rw [← List.take_append_drop s.columns.length values, hvalues]
      rw [List.forall_mem_append]
      exact ⟨fun h => h.2, fun h => ⟨hscalars, h⟩⟩
    rw [Fallible.exists_error_iff,
      exists_bindPositional_iff_of_single hsingle
        (hsupplied.length_columns_le hvalues), hall]
    simp

/-- Two columns of one name share a list; a column with one value stands between
them, and a list column with an empty list behind them. -/
theorem bind_fails_iff_two_expand_of_shared_list :
    let s : Statement :=
      ⟨"q", .select, "i IN (:i[]) AND k = :k OR j IN (:i[],:e[])", [],
        [⟨"i", 7, .list⟩, ⟨"k", 18, .single⟩, ⟨"i", 29, .list⟩,
          ⟨"e", 31, .list⟩],
        "i IN (?) AND k = ? OR j IN (?,?)",
        "i IN ($1) AND k = $2 OR j IN ($3,$4)"⟩
    let list : Param :=
      .optional (some (.sequence [.scalar (.int 1), .optional none]))
    let params : List Param := [list, .scalar (.int 3), list, .sequence []]
    let named : NamedParams :=
      [("e", .sequence []), ("i", list), ("k", .scalar (.int 3))]
    let placed : List Param := params ++ [.erased "dyn Any"]
    let supplied : List (List Value) :=
      [[.int 1, .null], [.int 3], [.int 1, .null], [.null]]
    (Statement.raw s.id s.kind s.text []).normalize .dollar = .ok s ∧
      Supplied s.columns params supplied ∧
      s.columns.mapM (lookupNamed named) = .ok params ∧
      placed.take s.columns.length = params ∧ s.hasList = true ∧
      expanding s.columns params = 2 ∧
      s.bindNamed .dollar named = .error (.bind .severalLists) ∧
      s.bindPositional .dollar placed = .error (.bind .severalLists) := by
  intro s list params named placed supplied
  have hnormal :
      (Statement.raw s.id s.kind s.text []).normalize .dollar = .ok s :=
    Statement.normalize_eq_ok_iff.mpr
      ⟨"i IN (".toList.map .plain ++ .slot ['i'] .list ::
      (") AND k = ".toList.map .plain ++ .slot ['k'] .single ::
        (" OR j IN (".toList.map .plain ++
        [.slot ['i'] .list, .plain ',', .slot ['e'] .list, .plain ')'])),
      Template.items_eq_ok_iff.mpr ⟨by decide, by decide⟩, by decide⟩
  have hlist : list.Supplies .list [.int 1, .null] :=
    .elements rfl (.cons (.scalar _) (.cons .nothing .nil))
  have hsupplied : Supplied s.columns params supplied :=
    .cons hlist
      (.cons (.single (.scalar _)) (.cons hlist (.cons (.empty rfl) .nil)))
  have hparams : s.columns.mapM (lookupNamed named) = .ok params := rfl
  have htwo : expanding s.columns params = 2 := by decide
  obtain ⟨hbyName, hbyPlace⟩ := bind_fails_iff_two_expand .dollar hsupplied
  have hnamed :=
    (hbyName named hparams (.bind .severalLists)).mpr ⟨htwo.ge, rfl⟩
  have hplaced :=
    ((hbyPlace placed rfl).1 rfl (.bind .severalLists)).mpr ⟨htwo.ge, rfl⟩
  exact ⟨hnormal, hsupplied, hparams, rfl, rfl, htwo, hnamed, hplaced⟩

/-- The only column has its value, but a list stands behind the value. -/
theorem bind_fails_behind_columns :
    let s : Statement :=
      ⟨"setA", .update, "UPDATE t SET a = :a", [], [⟨"a", 18, .single⟩],
        "UPDATE t SET a = ?", "UPDATE t SET a = ?"⟩
    let values : List Param := [.scalar (.int 1), .sequence [.scalar (.int 2)]]
    (Statement.raw s.id s.kind s.text []).normalize .question = .ok s ∧
      Supplied s.columns (values.take s.columns.length) [[.int 1]] ∧
      expanding s.columns (values.take s.columns.length) = 0 ∧
      s.bindPositional .question values = .error (.bind (.notScalar "#2")) := by
  intro s values
  have hnormal :
      (Statement.raw s.id s.kind s.text []).normalize .question = .ok s :=
    Statement.normalize_eq_ok_iff.mpr ⟨"UPDATE t SET a = ".toList.map .plain ++
      [.slot ['a'] .single],
      Template.items_eq_ok_iff.mpr ⟨by decide, by decide⟩, by decide⟩
  exact ⟨hnormal, .cons (.single (.scalar _)) .nil, rfl, by decide⟩

end Statement

end NamedSql
