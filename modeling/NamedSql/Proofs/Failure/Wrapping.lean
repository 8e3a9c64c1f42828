import NamedSql.Error

/-!
Wrapping a failure. Whatever is put around a cause, in any order and any number
of times, it stays the cause, so whether the connection was lost does too. The
failed row and the partial tally are those of one layer, the batch that was put
on last, and there is none of the two without a batch.
-/

namespace NamedSql

/-- What is done to a failure on its way: its statement is named, or it gets a
new layer whether it has one or not. -/
inductive Wrap where
  | inStatement (id : String)
  | annotated (id : String)
  | batch (id : String) (row : Nat) (applied : Tally)
deriving DecidableEq, Repr

namespace Wrap

def apply : Wrap → Failure → Failure
  | inStatement id, failure => failure.inStatement id
  | annotated id, failure => .annotated id failure
  | batch id row applied, failure => .batch id row applied failure

def isBatch : Wrap → Bool
  | batch _ _ _ => true
  | _ => false

theorem isBatch_iff {wrap : Wrap} :
    wrap.isBatch = true ↔ ∃ id row applied, wrap = batch id row applied := by
  cases wrap with
  | inStatement id => simp [isBatch]
  | annotated id => simp [isBatch]
  | batch id row applied => simp [isBatch]

/-- Behind the last batch there are only wraps of other kinds. -/
theorem exists_last_batch (wraps : List Wrap) :
    (∀ wrap ∈ wraps, wrap.isBatch = false) ∨
      ∃ earlier id row applied later,
        wraps = earlier ++ batch id row applied :: later ∧
        ∀ wrap ∈ later, wrap.isBatch = false := by
  induction wraps with
  | nil => exact .inl nofun
  | cons wrap rest ih =>
      rcases ih with hnone | ⟨earlier, id, row, applied, later, rfl, hlater⟩
      · cases hbatch : wrap.isBatch with
        | false => exact .inl (List.forall_mem_cons.mpr ⟨hbatch, hnone⟩)
        | true =>
            obtain ⟨id, row, applied, rfl⟩ := isBatch_iff.mp hbatch
            exact .inr ⟨[], id, row, applied, rest, rfl, hnone⟩
      · exact .inr ⟨wrap :: earlier, id, row, applied, later, rfl, hlater⟩

end Wrap

namespace Failure

/-- A failure after some wraps, the first of them innermost. -/
def wrap (failure : Failure) (wraps : List Wrap) : Failure :=
  wraps.foldl (fun failure wrap => wrap.apply failure) failure

theorem wrap_append (failure : Failure) (wraps later : List Wrap) :
    failure.wrap (wraps ++ later) = (failure.wrap wraps).wrap later :=
  List.foldl_append

theorem inStatement_eq_self_iff {id : String} {failure : Failure} :
    failure.inStatement id = failure ↔ ∀ cause, failure ≠ .plain cause := by
  cases failure with
  | plain cause => simp [inStatement]
  | annotated => simp [inStatement]
  | batch => simp [inStatement]

theorem root_apply (step : Wrap) (failure : Failure) :
    (step.apply failure).root = failure.root := by
  cases step with
  | inStatement id => cases failure <;> rfl
  | annotated id => rfl
  | batch id row applied => rfl

theorem root_wrap (wraps : List Wrap) (failure : Failure) :
    (failure.wrap wraps).root = failure.root := by
  induction wraps generalizing failure with
  | nil => rfl
  | cons step rest ih =>
      exact (ih (step.apply failure)).trans (root_apply step failure)

/-- The connection was lost exactly if the driver says so under all layers. -/
theorem isBadConnection_iff {failure : Failure} :
    failure.isBadConnection = true ↔ failure.root = .driver .badConnection :=
  beq_iff_eq

theorem apply_ne_plain (step : Wrap) (failure : Failure) (cause : Cause) :
    step.apply failure ≠ .plain cause := by
  cases step with
  | inStatement id => cases failure <;> exact nofun
  | annotated id => exact nofun
  | batch id row applied => exact nofun

theorem wrap_ne_plain {wraps : List Wrap} (hne : wraps ≠ []) (failure : Failure)
    (cause : Cause) : failure.wrap wraps ≠ .plain cause := by
  obtain ⟨earlier, last, rfl⟩ := (List.eq_nil_or_concat wraps).resolve_left hne
  rw [List.concat_eq_append, wrap_append]
  exact apply_ne_plain last (failure.wrap earlier) cause

/-- Layers that name a statement, the first of them outermost. -/
def annotatedBy (ids : List String) (failure : Failure) : Failure :=
  ids.foldr annotated failure

theorem failedRow?_annotatedBy (ids : List String) (failure : Failure) :
    (failure.annotatedBy ids).failedRow? = failure.failedRow? := by
  induction ids with
  | nil => rfl
  | cons id rest ih => exact ih

theorem partialTally?_annotatedBy (ids : List String) (failure : Failure) :
    (failure.annotatedBy ids).partialTally? = failure.partialTally? := by
  induction ids with
  | nil => rfl
  | cons id rest ih => exact ih

theorem exists_apply_eq_annotatedBy {step : Wrap} (hstep : step.isBatch = false)
    (failure : Failure) :
    ∃ ids, step.apply failure = failure.annotatedBy ids := by
  cases step with
  | inStatement id =>
      cases failure with
      | plain cause => exact ⟨[id], rfl⟩
      | annotated => exact ⟨[], rfl⟩
      | batch => exact ⟨[], rfl⟩
  | annotated id => exact ⟨[id], rfl⟩
  | batch => cases hstep

theorem exists_wrap_eq_annotatedBy {wraps : List Wrap}
    (hwraps : ∀ wrap ∈ wraps, wrap.isBatch = false) (failure : Failure) :
    ∃ ids, failure.wrap wraps = failure.annotatedBy ids := by
  induction wraps generalizing failure with
  | nil => exact ⟨[], rfl⟩
  | cons step rest ih =>
      obtain ⟨hstep, hrest⟩ := List.forall_mem_cons.mp hwraps
      obtain ⟨ids, hids⟩ := exists_apply_eq_annotatedBy hstep failure
      obtain ⟨outer, houter⟩ := ih hrest (step.apply failure)
      refine ⟨outer ++ ids, ?_⟩
      rw [annotatedBy, List.foldr_append]
      rw [hids] at houter
      exact (congrArg (wrap · rest) hids).trans houter

/-- Every failure comes about by wrapping its cause. -/
theorem exists_wrap (failure : Failure) :
    ∃ wraps, (Failure.plain failure.root).wrap wraps = failure := by
  induction failure with
  | plain cause => exact ⟨[], rfl⟩
  | annotated id source ih =>
      obtain ⟨wraps, hwraps⟩ := ih
      refine ⟨wraps ++ [.annotated id], ?_⟩
      rw [wrap_append, root, hwraps]
      rfl
  | batch id row applied source ih =>
      obtain ⟨wraps, hwraps⟩ := ih
      refine ⟨wraps ++ [.batch id row applied], ?_⟩
      rw [wrap_append, root, hwraps]
      rfl

/-- What a wrapped cause tells. The batch whose row and tally it tells was put
on last, and around its layer there are only names of statements. -/
theorem wrapping_keeps_cause (cause : Cause) (wraps : List Wrap) :
    let failure := (Failure.plain cause).wrap wraps
    failure.root = cause ∧
      failure.isBadConnection = (Failure.plain cause).isBadConnection ∧
      (failure.isBadConnection = true ↔ cause = .driver .badConnection) ∧
      (((∀ wrap ∈ wraps, wrap.isBatch = false) ∧
          (∃ ids, failure = (Failure.plain cause).annotatedBy ids) ∧
          failure.failedRow? = none ∧ failure.partialTally? = none) ∨
        ∃ earlier id row applied later,
          wraps = earlier ++ .batch id row applied :: later ∧
          (∀ wrap ∈ later, wrap.isBatch = false) ∧
          (∃ ids, failure =
            (batch id row applied
                ((Failure.plain cause).wrap earlier)).annotatedBy ids) ∧
          failure.failedRow? = some row ∧
          failure.partialTally? = some applied) ∧
      ∀ id, failure.inStatement id = failure ↔ wraps ≠ [] := by
  intro failure
  have hroot : failure.root = cause := root_wrap wraps (.plain cause)
  refine ⟨hroot, ?_, ?_, ?_, ?_⟩
  · rw [isBadConnection, isBadConnection, hroot, root]
  · rw [isBadConnection_iff, hroot]
  · rcases Wrap.exists_last_batch wraps with
      hnone | ⟨earlier, id, row, applied, later, hwraps, hlater⟩
    · obtain ⟨ids, hids⟩ := exists_wrap_eq_annotatedBy hnone (.plain cause)
      refine .inl ⟨hnone, ⟨ids, hids⟩, ?_, ?_⟩
      · exact (congrArg failedRow? hids).trans (failedRow?_annotatedBy ids _)
      · exact (congrArg partialTally? hids).trans
          (partialTally?_annotatedBy ids _)
    · let stopped := batch id row applied ((Failure.plain cause).wrap earlier)
      obtain ⟨ids, hids⟩ := exists_wrap_eq_annotatedBy hlater stopped
      have hfailure : failure = stopped.annotatedBy ids := by
        rw [← hids]
        exact (congrArg (wrap _) hwraps).trans (wrap_append _ _ _)
      refine .inr ⟨earlier, id, row, applied, later, hwraps, hlater,
        ⟨ids, hfailure⟩, ?_, ?_⟩
      · exact (congrArg failedRow? hfailure).trans
          (failedRow?_annotatedBy ids stopped)
      · exact (congrArg partialTally? hfailure).trans
          (partialTally?_annotatedBy ids stopped)
  · intro id
    rw [inStatement_eq_self_iff]
    constructor
    · rintro hlayered rfl
      exact hlayered cause rfl
    · exact fun hne => wrap_ne_plain hne (.plain cause)

end Failure

end NamedSql
