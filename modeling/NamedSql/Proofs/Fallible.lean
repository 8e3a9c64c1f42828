import Mathlib.Data.List.Perm.Basic

/-!
Outcomes of steps that may fail. A step behind another succeeds where both do,
and a list of steps where each of them does; what fails, fails as one of its
steps.
-/

namespace NamedSql.Fallible

variable {α β ε : Type}

theorem bind_eq_ok_iff {f : α → Except ε β} {outcome : Except ε α} {value : β} :
    outcome >>= f = .ok value ↔
      ∃ found, outcome = .ok found ∧ f found = .ok value := by
  cases outcome with
  | error e => simp [bind, Except.bind]
  | ok found => simp [bind, Except.bind]

theorem bind_eq_error_iff {f : α → Except ε β} {outcome : Except ε α} {e : ε} :
    outcome >>= f = .error e ↔
      outcome = .error e ∨ ∃ found,
        outcome = .ok found ∧ f found = .error e := by
  cases outcome with
  | error e => simp [bind, Except.bind]
  | ok found => simp [bind, Except.bind]

theorem map_eq_ok_iff {f : α → β} {outcome : Except ε α} {value : β} :
    f <$> outcome = .ok value ↔
      ∃ found, outcome = .ok found ∧ f found = value := by
  cases outcome with
  | error e => simp [Functor.map, Except.map]
  | ok found => simp [Functor.map, Except.map]

theorem map_eq_error_iff {f : α → β} {outcome : Except ε α} {e : ε} :
    f <$> outcome = .error e ↔ outcome = .error e := by
  cases outcome with
  | error e => simp [Functor.map, Except.map]
  | ok found => simp [Functor.map, Except.map]

theorem mapError_eq_ok_iff {δ : Type} {f : ε → δ} {outcome : Except ε α}
    {value : α} : outcome.mapError f = .ok value ↔ outcome = .ok value := by
  cases outcome with
  | error e => simp [Except.mapError]
  | ok found => simp [Except.mapError]

theorem exists_error_iff {outcome : Except ε α} :
    (∃ e, outcome = .error e) ↔ ¬∃ value, outcome = .ok value := by
  cases outcome with
  | error e => simp
  | ok value => simp

theorem mapM_cons_eq_ok_iff {f : α → Except ε β} {x : α} {xs : List α}
    {ys : List β} :
    (x :: xs).mapM f = .ok ys ↔
      ∃ y tail, f x = .ok y ∧ xs.mapM f = .ok tail ∧ ys = y :: tail := by
  rw [List.mapM_cons]
  rcases f x with e | y
  · simp [bind, Except.bind]
  · rcases xs.mapM f with e | tail
    · simp [bind, Except.bind]
    · simp [bind, Except.bind, pure, Except.pure, eq_comm]

theorem mapM_cons_eq_error_iff {f : α → Except ε β} {x : α} {xs : List α}
    {e : ε} :
    (x :: xs).mapM f = .error e ↔
      f x = .error e ∨ ∃ y, f x = .ok y ∧ xs.mapM f = .error e := by
  rw [List.mapM_cons]
  rcases f x with e | y
  · simp [bind, Except.bind]
  · rcases xs.mapM f with e | tail
    · simp [bind, Except.bind]
    · simp [bind, Except.bind, pure, Except.pure]

theorem mapM_eq_ok_iff {f : α → Except ε β} {xs : List α} {ys : List β} :
    xs.mapM f = .ok ys ↔ List.Forall₂ (fun x y => f x = .ok y) xs ys := by
  induction xs generalizing ys with
  | nil => simp [pure, Except.pure, eq_comm]
  | cons x xs ih =>
      rw [mapM_cons_eq_ok_iff, List.forall₂_cons_left_iff]
      constructor
      · rintro ⟨y, tail, hx, hxs, rfl⟩
        exact ⟨y, tail, hx, ih.mp hxs, rfl⟩
      · rintro ⟨y, tail, hx, hxs, rfl⟩
        exact ⟨y, tail, hx, ih.mpr hxs, rfl⟩

theorem exists_of_mapM_eq_ok {f : α → Except ε β} {xs : List α} {ys : List β}
    (h : xs.mapM f = .ok ys) : ∀ x ∈ xs, ∃ y, f x = .ok y := by
  induction xs generalizing ys with
  | nil => exact List.forall_mem_nil _
  | cons x xs ih =>
      obtain ⟨y, tail, hx, hxs, -⟩ := mapM_cons_eq_ok_iff.mp h
      exact List.forall_mem_cons.mpr ⟨⟨y, hx⟩, ih hxs⟩

theorem exists_of_mapM_eq_error {f : α → Except ε β} {xs : List α} {e : ε}
    (h : xs.mapM f = .error e) : ∃ x ∈ xs, f x = .error e := by
  induction xs with
  | nil => cases h
  | cons x xs ih =>
      rcases mapM_cons_eq_error_iff.mp h with hx | ⟨_, _, hxs⟩
      · exact ⟨x, List.mem_cons_self, hx⟩
      · obtain ⟨found, hmem, hfound⟩ := ih hxs
        exact ⟨found, List.mem_cons_of_mem x hmem, hfound⟩

/-- Whether all steps succeed does not depend on their order. -/
theorem exists_mapM_of_perm {f : α → Except ε β} {xs xs' : List α} {ys : List β}
    (hperm : xs.Perm xs') (h : xs.mapM f = .ok ys) :
    ∃ ys', xs'.mapM f = .ok ys' ∧ ys.Perm ys' := by
  rw [mapM_eq_ok_iff] at h
  obtain ⟨ys', hsteps, hys⟩ := List.perm_comp_forall₂ hperm.symm h
  exact ⟨ys', mapM_eq_ok_iff.mpr hsteps, hys.symm⟩

end NamedSql.Fallible
