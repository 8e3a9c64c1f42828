import NamedSql.Proofs.Batch.Run
import Mathlib.Data.List.Range
import Mathlib.Data.Option.Basic
import Mathlib.Tactic.Common

/-!
In which order a batch goes over its rows. Each execution of a batch is an
attempt at one row. The attempts that succeed are at the first rows of the list,
in order and once each; an attempt that loses the connection is repeated, and
nothing else is. The main statement holds whatever the backend answers.
-/

namespace NamedSql.Batch

open Backend

variable {σ : Type}

/-- An execution together with the index of the row that it was for. -/
structure Attempt extends Executed where
  row : Nat

def Attempt.succeeded (attempt : Attempt) : Bool :=
  attempt.toExecuted.succeeded

/-- Executions as attempts at one row after the other. -/
def attemptsFrom (row : Nat) : List Executed → List Attempt
  | [] => []
  | executed :: rest => ⟨executed, row⟩ :: attemptsFrom (row + 1) rest

theorem attemptsFrom_append (row : Nat) (left right : List Executed) :
    attemptsFrom row (left ++ right) =
      attemptsFrom row left ++ attemptsFrom (row + left.length) right := by
  induction left generalizing row with
  | nil => rfl
  | cons executed rest ih =>
      simp only [List.cons_append, attemptsFrom, ih, List.length_cons]
      rw [Nat.add_right_comm, Nat.add_assoc]

theorem attemptsFrom_executed (row : Nat) (done : List Executed) :
    (attemptsFrom row done).map Attempt.toExecuted = done := by
  induction done generalizing row with
  | nil => rfl
  | cons executed rest ih => rw [attemptsFrom, List.map_cons, ih]

theorem attemptsFrom_row (row : Nat) (done : List Executed) :
    (attemptsFrom row done).map Attempt.row = List.range' row done.length := by
  induction done generalizing row with
  | nil => rfl
  | cons executed rest ih =>
      rw [attemptsFrom, List.map_cons, ih, List.length_cons, List.range'_succ]

theorem mem_attemptsFrom {row : Nat} {done : List Executed} {attempt : Attempt}
    (h : attempt ∈ attemptsFrom row done) :
    row ≤ attempt.row ∧ done[attempt.row - row]? = some attempt.toExecuted := by
  induction done generalizing row with
  | nil => cases h
  | cons executed rest ih =>
      rcases List.mem_cons.mp h with rfl | hrest
      · simp
      · obtain ⟨hrow, hfound⟩ := ih hrest
        refine ⟨by omega, ?_⟩
        have hindex :
            attempt.row - row = attempt.row - (row + 1) + 1 := by omega
        rw [hindex, List.getElem?_cons_succ, hfound]

theorem row_lt_of_mem {row : Nat} {done : List Executed} {attempt : Attempt}
    (h : attempt ∈ attemptsFrom row done) :
    attempt.row < row + done.length := by
  obtain ⟨hrow, hfound⟩ := mem_attemptsFrom h
  have hlt := (List.getElem?_eq_some_iff.mp hfound).1
  omega

/-- The executions carry the arguments of as many rows, one after the other. -/
def Carries (s : Statement) (rows : List Param) (done : List Executed) : Prop :=
  done.map (fun executed => Except.ok executed.arguments) =
    (rows.take done.length).map s.bindRow

theorem Carries.of_attempt {s : Statement} {rows : List Param}
    {done : List Executed} {row : Nat} (h : Carries s (rows.drop row) done)
    {attempt : Attempt} (hmem : attempt ∈ attemptsFrom row done) :
    rows[attempt.row]?.map s.bindRow = some (.ok attempt.arguments) := by
  obtain ⟨hrow, hfound⟩ := mem_attemptsFrom hmem
  have hlt : attempt.row - row < done.length :=
    (List.getElem?_eq_some_iff.mp hfound).1
  have hat := congrArg (fun carried => carried[attempt.row - row]?) h
  simp only [List.getElem?_map, hfound, List.getElem?_take_of_lt hlt,
    List.getElem?_drop, Nat.add_sub_cancel' hrow] at hat
  exact hat.symm

theorem carries_of_applied {s : Statement} {rows : List Param}
    {done : List Executed} (h : List.Forall₂ (Applied s) rows done) :
    done.map (fun executed => Except.ok executed.arguments) =
      rows.map s.bindRow := by
  induction h with
  | nil => rfl
  | cons hrow _ ih =>
      cases hrow with
      | intro bound _ => rw [List.map_cons, List.map_cons, ih, bound]

theorem Stopped.carries {s : Statement} {rows : List Param}
    {last : List Executed} {failure : Option Cause}
    (h : Stopped s rows last failure) : Carries s rows last := by
  cases h with
  | finished | unprepared | unbound _ => rfl
  | refused bound => simp [Carries, bound]
  | withoutId bound _ => simp [Carries, bound]

theorem Swept.carries {s : Statement} {rows : List Param}
    {done last : List Executed} {pass : Pass}
    (h : Swept s rows done last pass) : Carries s rows (done ++ last) := by
  rw [Carries, List.map_append, List.length_append, List.take_add,
    List.map_append, carries_of_applied h.applied, ← h.stopped.carries]

theorem Swept.length_done_le {s : Statement} {rows : List Param}
    {done last : List Executed} {pass : Pass}
    (h : Swept s rows done last pass) : done.length ≤ rows.length := by
  have hlength := h.applied.length_eq
  rw [List.length_take] at hlength
  omega

/-- The number of rows that are applied beyond those that a pass got done: a row
without its id. -/
def beyondDone : Option Cause → Nat
  | some (.result (.missingInsertId _)) => 1
  | _ => 0

theorem beyondDone_of_ofParameters {cause : Cause} (h : cause.ofParameters) :
    beyondDone (some cause) = 0 := by
  cases cause <;> simp_all [Cause.ofParameters, beyondDone]

theorem succeeded_of_applied {s : Statement} {rows : List Param}
    {done : List Executed} (h : List.Forall₂ (Applied s) rows done) :
    ∀ executed ∈ done, executed.succeeded := by
  induction h with
  | nil => simp
  | cons hrow _ ih =>
      cases hrow with
      | intro _ _ => simpa [Executed.succeeded, Executed.outcome?] using ih

theorem Stopped.succeeded_rows {s : Statement} {rows : List Param}
    {last : List Executed} {failure : Option Cause}
    (h : Stopped s rows last failure) (row : Nat) :
    ((attemptsFrom row last).filter Attempt.succeeded).map Attempt.row =
      List.range' row (beyondDone failure) := by
  cases h with
  | finished | unprepared | refused _ => rfl
  | unbound failed =>
      rw [beyondDone_of_ofParameters (Statement.bindRow_error failed)]
      rfl
  | withoutId _ missing =>
      obtain ⟨-, -, rfl⟩ := insertId_eq_error_iff.mp missing
      rfl

/-- Of the attempts of a pass those at the rows that it got done succeed, and
the one at the row that stopped it where only the id is missing. -/
theorem Swept.succeeded_rows {s : Statement} {rows : List Param}
    {done last : List Executed} {pass : Pass} (h : Swept s rows done last pass)
    (row : Nat) :
    ((attemptsFrom row (done ++ last)).filter Attempt.succeeded).map
        Attempt.row =
      List.range' row (done.length + beyondDone pass.failure) := by
  have hdone : (attemptsFrom row done).filter Attempt.succeeded =
      attemptsFrom row done := by
    rw [List.filter_eq_self]
    intro attempt hmem
    have hexecuted := List.mem_of_getElem? (mem_attemptsFrom hmem).2
    exact succeeded_of_applied h.applied _ hexecuted
  rw [attemptsFrom_append, List.filter_append, List.map_append, hdone,
    attemptsFrom_row, h.stopped.succeeded_rows, List.range'_append_1]

/-- The number of rows that a batch has applied, going by what it reports. -/
def appliedRows (s : Statement) (rows : List Param) : Except Failure Tally → Nat
  | .ok _ => rows.length
  | .error failure =>
      match check s rows with
      | .error _ => 0
      | .ok _ => failure.failedRow?.getD 0 + beyondDone (some failure.root)

/-- Attempts of a batch at the rows of its list. -/
structure InOrder (s : Statement) (rows : List Param)
    (result : Except Failure Tally) (attempts : List Attempt) : Prop where
  /-- An attempt carries the arguments of its row. -/
  carried : ∀ attempt ∈ attempts,
    rows[attempt.row]?.map s.bindRow = some (.ok attempt.arguments)
  /-- The attempts that succeed are at the rows that count as applied, once
  each. -/
  applied : (attempts.filter Attempt.succeeded).map Attempt.row =
    List.range (appliedRows s rows result)
  ascending : (attempts.map Attempt.row).Pairwise (· ≤ ·)
  /-- A failure names a row, and nothing is attempted behind it. -/
  stops : ∀ failure, result = .error failure →
    ∃ row, failure.failedRow? = some row ∧ ∀ attempt ∈ attempts,
      attempt.row ≤ row
  /-- A row is attempted twice only because its first attempt lost the
  connection. -/
  twice : ∀ row, 2 ≤ (attempts.map Attempt.row).count row →
    (attempts.map Attempt.row).count row = 2 ∧
      ∃ attempt ∈ attempts,
        attempt.row = row ∧ attempt.answer = .error .badConnection
  once : ∀ row other, 2 ≤ (attempts.map Attempt.row).count row →
    2 ≤ (attempts.map Attempt.row).count other → row = other

theorem Stopped.length_le_one {s : Statement} {rows : List Param}
    {last : List Executed} {failure : Option Cause}
    (h : Stopped s rows last failure) : last.length ≤ 1 := by
  cases h <;> simp

/-- A pass that finishes has got all its rows done. -/
theorem Swept.length_done_of_finished {s : Statement} {rows : List Param}
    {done last : List Executed} {executed : Nat} {tally : Tally}
    (h : Swept s rows done last ⟨executed, tally, none⟩) :
    last = [] ∧ done.length = rows.length := by
  have hstopped := h.stopped
  generalize hleft : rows.drop done.length = left at hstopped
  cases hstopped with
  | finished =>
      have hle := h.length_done_le
      have hge := List.drop_eq_nil_iff.mp hleft
      exact ⟨rfl, by omega⟩

/-- Where the connection was lost, nothing else was executed for the row that
stopped the pass. -/
theorem Stopped.of_lost {s : Statement} {rows : List Param}
    {last : List Executed}
    (h : Stopped s rows last (some (.driver .badConnection))) :
    last = [] ∨ ∃ arguments, last = [⟨arguments, .error .badConnection⟩] := by
  generalize hfailure : some (Cause.driver .badConnection) = failure at h
  cases h with
  | finished => cases hfailure
  | unprepared => exact .inl rfl
  | unbound failed => exact .inl rfl
  | refused bound =>
      cases hfailure
      exact .inr ⟨_, rfl⟩
  | withoutId bound missing => cases hfailure

theorem count_attemptsFrom (row start : Nat) (done : List Executed) :
    ((attemptsFrom start done).map Attempt.row).count row =
      if start ≤ row ∧ row < start + done.length then 1 else 0 := by
  rw [attemptsFrom_row, (List.nodup_range' 1).count]
  simp only [List.mem_range'_1]

theorem inOrder_of_pass {s : Statement} {rows : List Param}
    {done last : List Executed} {pass : Pass} {result : Except Failure Tally}
    (h : Swept s rows done last pass)
    (happlied : appliedRows s rows result =
      done.length + beyondDone pass.failure)
    (hstops : ∀ failure, result = .error failure →
      failure.failedRow? = some done.length) :
    InOrder s rows result (attemptsFrom 0 (done ++ last)) where
  carried attempt hmem := by
    have hcarries : Carries s (rows.drop 0) (done ++ last) := h.carries
    exact hcarries.of_attempt hmem
  applied := by rw [h.succeeded_rows, happlied, List.range_eq_range']
  ascending := by
    rw [attemptsFrom_row]
    exact List.pairwise_le_range' 1
  stops failure hresult := by
    refine ⟨done.length, hstops failure hresult, ?_⟩
    intro attempt hmem
    have hlast := h.stopped.length_le_one
    have hlt := row_lt_of_mem hmem
    rw [List.length_append] at hlt
    omega
  twice row hrow := by
    rw [count_attemptsFrom] at hrow
    split at hrow <;> omega
  once row other hrow _ := by
    rw [count_attemptsFrom] at hrow
    split at hrow <;> omega

/-- Two runs of attempts, the second starting at the last row of the first at
the earliest: they have at most that row in common. -/
theorem shared_row {left right : List Executed} {start row : Nat}
    (hleft : left.length ≤ start + 1)
    (hrow : 2 ≤
      ((attemptsFrom 0 left ++ attemptsFrom start right).map Attempt.row).count
      row) :
    row = start ∧ left.length = start + 1 ∧
      ((attemptsFrom 0 left ++ attemptsFrom start right).map Attempt.row).count
        row = 2 := by
  rw [List.map_append, List.count_append, count_attemptsFrom,
    count_attemptsFrom] at hrow ⊢
  split at hrow
  · next hfirst =>
      split at hrow
      · next hsecond =>
          rw [if_pos hfirst, if_pos hsecond]
          omega
      · omega
  · split at hrow <;> omega

/-- The second pass begins at the row that the first one left. If the connection
was lost at an execution, that row is the only one that both passes attempt. -/
theorem inOrder_of_passes {s : Statement} {rows : List Param}
    {done last again final : List Executed} {executed : Nat} {tally : Tally}
    {added : Pass} {result : Except Failure Tally}
    (hfirst : Swept s rows done last
      ⟨executed, tally, some (.driver .badConnection)⟩)
    (hsecond : Swept s (rows.drop done.length) again final added)
    (happlied : appliedRows s rows result =
      done.length + (again.length + beyondDone added.failure))
    (hstops : ∀ failure, result = .error failure →
      failure.failedRow? = some (done.length + again.length)) :
    InOrder s rows result
      (attemptsFrom 0 (done ++ last) ++
        attemptsFrom done.length (again ++ final)) := by
  have hlast : (done ++ last).length ≤ done.length + 1 := by
    rw [List.length_append]
    exact Nat.add_le_add_left hfirst.stopped.length_le_one _
  have hfinal : (again ++ final).length ≤ again.length + 1 := by
    rw [List.length_append]
    exact Nat.add_le_add_left hsecond.stopped.length_le_one _
  refine ⟨?_, ?_, ?_, ?_, ?_, ?_⟩
  · intro attempt hmem
    rcases List.mem_append.mp hmem with hmem | hmem
    · have hcarries : Carries s (rows.drop 0) (done ++ last) := hfirst.carries
      exact hcarries.of_attempt hmem
    · exact hsecond.carries.of_attempt hmem
  · have hrange (count : Nat) : List.range' 0 (done.length + count) =
        List.range' 0 done.length ++ List.range' done.length count := by
      rw [← List.range'_append_1, Nat.zero_add]
    rw [List.filter_append, List.map_append, hfirst.succeeded_rows,
      hsecond.succeeded_rows, happlied, List.range_eq_range',
      hrange (again.length + beyondDone added.failure)]
    rfl
  · rw [List.map_append, attemptsFrom_row, attemptsFrom_row,
      List.pairwise_append]
    refine ⟨List.pairwise_le_range' 1, List.pairwise_le_range' 1, ?_⟩
    intro left hleft right hright
    rw [List.mem_range'_1] at hleft hright
    omega
  · intro failure hresult
    refine ⟨_, hstops failure hresult, ?_⟩
    intro attempt hmem
    rcases List.mem_append.mp hmem with hmem | hmem
    · have hlt := row_lt_of_mem hmem
      omega
    · have hlt := row_lt_of_mem hmem
      omega
  · intro row hrow
    obtain ⟨rfl, hlength, hcount⟩ := shared_row hlast hrow
    rcases hfirst.stopped.of_lost with rfl | ⟨arguments, rfl⟩
    · simp at hlength
    · refine ⟨hcount, ⟨⟨arguments, .error .badConnection⟩, done.length⟩, ?_,
        rfl, rfl⟩
      rw [attemptsFrom_append]
      simp [attemptsFrom]
  · intro row other hrow hother
    rw [(shared_row hlast hrow).1, (shared_row hlast hother).1]

/-- Before anything is asked there is nothing to attempt. -/
theorem inOrder_of_rejected {s : Statement} {rows : List Param} {index : Nat}
    {cause : Cause} (hcheck : check s rows = .error (index, cause)) :
    InOrder s rows (.error (.batch s.id index .empty (.plain cause))) [] := by
  refine ⟨by simp, by simp [appliedRows, hcheck], by simp, ?_, by simp, by simp⟩
  intro failure hresult
  cases hresult
  exact ⟨index, rfl, by simp⟩

theorem Ran.inOrder {s : Statement} {rows : List Param} {trail : List Event}
    {result : Except Failure Tally} (h : Ran s rows trail result) :
    ∃ attempts, executions trail = attempts.map Attempt.toExecuted ∧
      InOrder s rows result attempts := by
  cases h with
  | completed only =>
      obtain ⟨_, _, _, _, hpass⟩ | ⟨hcheck, done, last, htrail, hswept⟩ :=
        only.swept_or_rejected
      · cases hpass
      · refine ⟨_, htrail.trans (attemptsFrom_executed 0 _).symm,
          inOrder_of_pass hswept ?_ ?_⟩
        · exact hswept.length_done_of_finished.2.symm
        · intro failure hresult
          cases hresult
  | failed only kept =>
      obtain ⟨_, _, hcheck, rfl, hpass⟩ | ⟨hcheck, done, last, htrail,
          hswept⟩ :=
        only.swept_or_rejected
      · cases hpass
        exact ⟨[], rfl, inOrder_of_rejected hcheck⟩
      · obtain rfl := hswept.executed
        refine ⟨_, htrail.trans (attemptsFrom_executed 0 _).symm,
          inOrder_of_pass hswept ?_ ?_⟩
        · simp only [appliedRows, hcheck]
          rfl
        · intro failure hresult
          cases hresult
          rfl
  | @resumed left right executed count tally added first second =>
      obtain ⟨hcheck, done, last, again, final, hleft, hright, hfirst,
          hsecond⟩ :=
        first.swept_of_lost second
      obtain ⟨-, hcount⟩ := hsecond.length_done_of_finished
      refine ⟨_, ?_, inOrder_of_passes hfirst hsecond ?_ ?_⟩
      · rw [executions_append, hleft, hright, List.map_append,
          attemptsFrom_executed, attemptsFrom_executed]
      · have hle := hfirst.length_done_le
        rw [List.length_drop] at hcount
        simp only [appliedRows, beyondDone]
        omega
      · intro failure hresult
        cases hresult
  | @resumedFailed left right executed count tally added cause first second =>
      obtain ⟨hcheck, done, last, again, final, hleft, hright, hfirst,
          hsecond⟩ :=
        first.swept_of_lost second
      obtain rfl := hfirst.executed
      obtain rfl := hsecond.executed
      refine ⟨_, ?_, inOrder_of_passes hfirst hsecond ?_ ?_⟩
      · rw [executions_append, hleft, hright, List.map_append,
          attemptsFrom_executed, attemptsFrom_executed]
      · simp only [appliedRows, hcheck]
        exact Nat.add_assoc done.length again.length _
      · intro failure hresult
        cases hresult
        rfl

/-- The rows that count as applied are the first ones, and the attempts that
succeed carry their arguments. -/
theorem InOrder.arguments {s : Statement} {rows : List Param}
    {result : Except Failure Tally} {attempts : List Attempt}
    (h : InOrder s rows result attempts) :
    appliedRows s rows result ≤ rows.length ∧
      (attempts.filter Attempt.succeeded).map
          (fun attempt => Except.ok attempt.arguments) =
        (rows.take (appliedRows s rows result)).map s.bindRow := by
  generalize hcount : appliedRows s rows result = count
  have hrows : (attempts.filter Attempt.succeeded).map
      (fun attempt => some (Except.ok attempt.arguments)) =
        (List.range count).map (fun row => rows[row]?.map s.bindRow) := by
    rw [← hcount, ← h.applied, List.map_map]
    apply List.map_congr_left
    intro attempt hmem
    exact (h.carried attempt (List.mem_of_mem_filter hmem)).symm
  have hle : count ≤ rows.length := by
    by_contra hlt
    have hmem : rows[rows.length]?.map s.bindRow ∈
        (List.range count).map (fun row => rows[row]?.map s.bindRow) :=
      List.mem_map.mpr ⟨rows.length, by simpa using hlt, rfl⟩
    rw [← hrows] at hmem
    simp at hmem
  refine ⟨hle, ?_⟩
  apply (Option.some_injective _).list_map
  rw [List.map_map, List.map_map]
  refine hrows.trans (List.ext_getElem? fun row => ?_)
  rcases Nat.lt_or_ge row count with hlt | hge
  · have hrow : row < rows.length := by omega
    simp [hlt, hrow]
  · have htaken : (rows.take count).length ≤ row := by
      rw [List.length_take_of_le hle]
      exact hge
    rw [List.getElem?_eq_none (by simpa using hge),
      List.getElem?_eq_none (by rwa [List.length_map])]

/-- Whatever the backend answers, the executions of a batch are attempts at its
rows in order: the ones that succeed carry the arguments of the first rows, each
once, and no row but one that lost the connection is attempted again. -/
theorem execute_applies_rows_in_order (backend : Backend σ) (s : Statement)
    (rows : List Param) (before : Session σ) :
    let result := ((execute backend s rows).run before).1
    let after := ((execute backend s rows).run before).2
    ∃ trail attempts, after.events = before.events ++ trail ∧
      executions trail = attempts.map Attempt.toExecuted ∧
      appliedRows s rows result ≤ rows.length ∧
      (attempts.filter Attempt.succeeded).map
          (fun attempt => Except.ok attempt.arguments) =
        (rows.take (appliedRows s rows result)).map s.bindRow ∧
      InOrder s rows result attempts := by
  intro result after
  obtain ⟨trail, hextends, hran⟩ := execute_leaves backend s rows before
  obtain ⟨attempts, hattempts, hinOrder⟩ := hran.inOrder
  exact ⟨trail, attempts, hextends.events, hattempts, hinOrder.arguments.1,
    hinOrder.arguments.2, hinOrder⟩

end NamedSql.Batch
