import NamedSql.Proofs.Binding.Supplied
import NamedSql.Batch

/-!
The check of the rows before a pass. It accepts a list of rows exactly where
every row has the shape of the first one and enough values; so it accepts what
is left of an accepted list too, and a pass that starts again in the middle is
never refused.
-/

namespace NamedSql.Batch

theorem checkRows_eq_ok_iff {defined index : Nat} {expected : String}
    {rows : List Param} :
    checkRows defined expected index rows = .ok () ↔
      ∀ row ∈ rows, row.rowShape?.getD row.kindName = expected ∧
        defined ≤ row.rowWidth := by
  induction rows generalizing index with
  | nil => simp [checkRows]
  | cons row rest ih =>
      simp only [checkRows, List.forall_mem_cons]
      split
      · next hshape => simp_all
      · next hshape =>
          split
          · next hwidth => simp [Nat.not_le.mpr hwidth]
          · next hwidth => simp_all

theorem unwrapped_of_present {row p : Param} (h : row.present = .ok p) :
    row.unwrapped = p := by
  rw [Param.present.eq_def] at h
  split at h
  · cases h
  · cases h
  · exact Except.ok.inj h
  · next hplain =>
      obtain rfl := Except.ok.inj h
      rw [Param.unwrapped.eq_def]
      split
      · exact absurd rfl (hplain _)
      · rfl

/-- A row that binds has a shape. -/
theorem rowShape?_of_bindRow {s : Statement} {row : Param}
    {arguments : List Value} (h : s.bindRow row = .ok arguments) :
    row.rowShape?.isSome := by
  have hshape {p : Param} (hpresent : row.present = .ok p)
      (hp : p.isComposite = true) :
      row.rowShape?.isSome := by
    simp [Param.rowShape?, unwrapped_of_present hpresent, hp]
  rw [Statement.bindRow] at h
  split at h
  · cases h
  · next items hpresent => exact hshape hpresent rfl
  · next entries hpresent => exact hshape hpresent rfl
  · next fields hpresent => exact hshape hpresent rfl
  · cases h

/-- What is left of accepted rows is accepted, if their first row has a
shape. -/
theorem check_drop {s : Statement} {row : Param} {rest : List Param}
    (count : Nat) (hshape : row.rowShape?.isSome)
    (h : check s (row :: rest) = .ok ()) :
    check s ((row :: rest).drop count) = .ok () := by
  obtain ⟨expected, hexpected⟩ := Option.isSome_iff_exists.mp hshape
  simp only [check, List.head?_cons, Option.bind_some, hexpected] at h
  have hrows := checkRows_eq_ok_iff.mp h
  rw [check]
  split
  · rfl
  · next found hfound =>
      obtain ⟨head, hhead, hfound⟩ := Option.bind_eq_some_iff.mp hfound
      have hmem : head ∈ row :: rest :=
        List.mem_of_mem_drop (List.mem_of_mem_head? hhead)
      obtain rfl : found = expected := by
        simpa [hfound] using (hrows head hmem).1
      exact checkRows_eq_ok_iff.mpr fun left hleft =>
        hrows left (List.mem_of_mem_drop hleft)

/-- Why a row is refused: it has another shape than the first one, or too few
values. The index is that of the refused row. -/
inductive Refused (s : Statement) (rows : List Param) : Nat → Cause → Prop where
  | shape {index : Nat} {row : Param} {expected : String}
      (at_index : rows[index]? = some row)
      (first : rows.head?.bind Param.rowShape? = some expected)
      (differs : row.rowShape?.getD row.kindName ≠ expected) :
      Refused s rows index
        (.param (.rowShape index expected (row.rowShape?.getD row.kindName)))
  | width {index : Nat} {row : Param} (at_index : rows[index]? = some row)
      (short : row.rowWidth < s.columns.length) :
      Refused s rows index
        (.bind (.countMismatch s.columns.length row.rowWidth))

theorem Refused.ofParameters {s : Statement} {rows : List Param} {index : Nat}
    {cause : Cause} (h : Refused s rows index cause) : cause.ofParameters := by
  cases h <;> rfl

theorem checkRows_error {s : Statement} {index found : Nat} {expected : String}
    {rows left : List Param} {cause : Cause}
    (first : rows.head?.bind Param.rowShape? = some expected)
    (hleft : rows.drop index = left)
    (h : checkRows s.columns.length expected index left =
      .error (found, cause)) :
    Refused s rows found cause := by
  induction left generalizing index with
  | nil => cases h
  | cons row rest ih =>
      have hrow : rows[index]? = some row := by
        rw [← List.head?_drop, hleft, List.head?_cons]
      simp only [checkRows] at h
      split at h
      · next hshape =>
          cases h
          exact .shape hrow first (by simpa using hshape)
      · split at h
        · next hwidth =>
            cases h
            exact .width hrow hwidth
        · refine ih ?_ h
          rw [← List.tail_drop, hleft, List.tail_cons]

/-- Refused rows are refused for one of them. -/
theorem check_error {s : Statement} {rows : List Param} {index : Nat}
    {cause : Cause} (h : check s rows = .error (index, cause)) :
    Refused s rows index cause := by
  rw [check] at h
  split at h
  · cases h
  · next first => exact checkRows_error first List.drop_zero h

end NamedSql.Batch
