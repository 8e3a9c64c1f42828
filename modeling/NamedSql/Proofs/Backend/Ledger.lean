import Mathlib.Data.List.Nodup
import NamedSql.Session.Handles

/-!
A ledger of what is open in the database. Each event is entered as it happens,
and a run is a list of events that were entered one after the other. The steps
say under which conditions an event may be entered:

* a statement or a cursor gets the next number;
* only a held statement is executed or queried;
* outside transactions, what is closed is open, and a statement is closed after
  the cursor that reads it;
* a transaction prepares no text that it holds already, and closes no statement.

From one step everything else follows by induction over the run: what is opened
is either closed or still in the ledger at the end, no handle is opened twice,
and a cursor is closed before its statement.
-/

namespace NamedSql.Backend

/-- What a caller has to close. -/
inductive Handle where
  | statement (number : Nat)
  | cursor (number : Nat)
deriving DecidableEq, Repr

def Handle.number : Handle → Nat
  | .statement number => number
  | .cursor number => number

namespace Event

/-- The handle that an event has opened. -/
def opened? (event : Event) : Option Handle :=
  (event.openedStatement?.map Handle.statement).or
    (event.openedCursor?.map Handle.cursor)

/-- The handle that an event was asked to close. A close counts even if it
fails. -/
def closed? (event : Event) : Option Handle :=
  (event.closedStatement?.map Handle.statement).or
    (event.closedCursor?.map Handle.cursor)

/-- The statement that an event has prepared. -/
def prepared? : Event → Option Prepared
  | ⟨.prepare statement, .ok _⟩ => some statement
  | _ => none

/-- The prepared statement that an event executes or queries. -/
def used? : Event → Option Prepared
  | ⟨.execPrepared statement _, _⟩ => some statement
  | ⟨.queryPrepared _ statement _, _⟩ => some statement
  | _ => none

end Event

/-- The call neither closes a statement nor begins or ends a transaction. -/
def Call.keepsTransaction : Call → Bool
  | .closeStatement _ | .beginTransaction | .commit | .rollback | .abandon
  | .close => false
  | _ => true

/-- An open cursor with the prepared statement that it reads, if it was opened
on one. -/
structure OpenCursor where
  number : Nat
  statement : Option Prepared
deriving DecidableEq, Repr

/-- What is open, in the order in which it was opened, and the number that is
given out next. -/
structure Ledger where
  next : Nat
  statements : List Prepared
  cursors : List OpenCursor

namespace Ledger

def empty (next : Nat) : Ledger :=
  ⟨next, [], []⟩

def handles (ledger : Ledger) : List Handle :=
  ledger.statements.map (fun statement => .statement statement.number) ++
    ledger.cursors.map fun cursor => .cursor cursor.number

/-- The next number is given out, but nothing is opened with it. -/
def skip (ledger : Ledger) : Ledger :=
  { ledger with next := ledger.next + 1 }

def hold (ledger : Ledger) (statement : Prepared) : Ledger :=
  { ledger.skip with statements := ledger.statements ++ [statement] }

def openCursor (ledger : Ledger) (statement : Option Prepared) : Ledger :=
  { ledger.skip with cursors := ledger.cursors ++ [⟨ledger.next, statement⟩] }

/-- A query is given the next number in any case, and opens a cursor if it
succeeds. -/
def afterQuery (ledger : Ledger) (statement : Option Prepared) :
    Except DriverError ResultSet → Ledger
  | .error _ => ledger.skip
  | .ok _ => ledger.openCursor statement

@[simp]
theorem next_afterQuery (ledger : Ledger) (statement : Option Prepared)
    (answer : Except DriverError ResultSet) :
    (ledger.afterQuery statement answer).next = ledger.next + 1 := by
  cases answer <;> rfl

@[simp]
theorem statements_afterQuery (ledger : Ledger) (statement : Option Prepared)
    (answer : Except DriverError ResultSet) :
    (ledger.afterQuery statement answer).statements = ledger.statements := by
  cases answer <;> rfl

def release (ledger : Ledger) (statement : Prepared) : Ledger :=
  { ledger with statements := ledger.statements.erase statement }

def closeCursor (ledger : Ledger) (cursor : OpenCursor) : Ledger :=
  { ledger with cursors := ledger.cursors.erase cursor }

/-- An event is entered into a ledger, inside a transaction or outside of one.
Of the cursors that a transaction closes nothing is asked, since none of them
owns a statement. -/
inductive Step (inTransaction : Bool) (ledger : Ledger) :
    Event → Ledger → Prop where
  | executed {marked : Bool} {sql : String} {arguments : List Value}
      {answer : Except DriverError Outcome} :
      Step inTransaction ledger ⟨.exec marked sql arguments, answer⟩ ledger
  | executedPrepared {statement : Prepared} {arguments : List Value}
      {answer : Except DriverError Outcome}
      (held : statement ∈ ledger.statements) :
      Step inTransaction ledger
        ⟨.execPrepared statement arguments, answer⟩ ledger
  | unprepared {sql : String} {e : DriverError}
      (unknown : inTransaction → ∀ held ∈ ledger.statements, held.sql ≠ sql) :
      Step inTransaction ledger
        ⟨.prepare ⟨ledger.next, sql, inTransaction⟩, .error e⟩ ledger.skip
  | prepared {sql : String}
      (unknown : inTransaction → ∀ held ∈ ledger.statements, held.sql ≠ sql) :
      Step inTransaction ledger
        ⟨.prepare ⟨ledger.next, sql, inTransaction⟩, .ok ()⟩
        (ledger.hold ⟨ledger.next, sql, inTransaction⟩)
  | unqueried {marked : Bool} {sql : String} {arguments : List Value}
      {e : DriverError} :
      Step inTransaction ledger
        ⟨.query ledger.next marked sql arguments, .error e⟩ ledger.skip
  | queried {marked : Bool} {sql : String} {arguments : List Value}
      {result : ResultSet} :
      Step inTransaction ledger
        ⟨.query ledger.next marked sql arguments, .ok result⟩
        (ledger.openCursor none)
  | unqueriedPrepared {statement : Prepared} {arguments : List Value}
      {e : DriverError} (held : statement ∈ ledger.statements) :
      Step inTransaction ledger
        ⟨.queryPrepared ledger.next statement arguments, .error e⟩ ledger.skip
  | queriedPrepared {statement : Prepared} {arguments : List Value}
      {result : ResultSet} (held : statement ∈ ledger.statements) :
      Step inTransaction ledger
        ⟨.queryPrepared ledger.next statement arguments, .ok result⟩
        (ledger.openCursor (some statement))
  | fetched {cursor : Nat} {answer : Except DriverError Unit} :
      Step inTransaction ledger ⟨.fetch cursor, answer⟩ ledger
  | closedCursor {cursor : OpenCursor} {answer : Except DriverError Unit}
      (isOpen : inTransaction = false → cursor ∈ ledger.cursors) :
      Step inTransaction ledger ⟨.closeCursor cursor.number, answer⟩
        (ledger.closeCursor cursor)
  | closedStatement {statement : Prepared} {answer : Except DriverError Unit}
      (outside : inTransaction = false) (held : statement ∈ ledger.statements)
      (unread : ∀ cursor ∈ ledger.cursors, cursor.statement ≠ some statement) :
      Step inTransaction ledger ⟨.closeStatement statement, answer⟩
        (ledger.release statement)

/-- Events that were entered one after the other take a ledger from the first to
the last. -/
inductive Run (inTransaction : Bool) : Ledger → List Event → Ledger → Prop where
  | nil (ledger : Ledger) : Run inTransaction ledger [] ledger
  | cons {first middle last : Ledger} {event : Event} {rest : List Event}
      (step : Step inTransaction first event middle)
      (run : Run inTransaction middle rest last) :
      Run inTransaction first (event :: rest) last

variable {inTransaction : Bool} {first middle last ledger : Ledger}
  {event : Event} {trail left right : List Event}

theorem Step.run (h : Step inTransaction first event last) :
    Run inTransaction first [event] last :=
  .cons h (.nil last)

theorem Run.append (hleft : Run inTransaction first left middle)
    (hright : Run inTransaction middle right last) :
    Run inTransaction first (left ++ right) last := by
  induction hleft with
  | nil ledger => exact hright
  | cons step _ ih => exact .cons step (ih hright)

theorem Run.split (h : Run inTransaction first (left ++ right) last) :
    ∃ middle, Run inTransaction first left middle ∧
      Run inTransaction middle right last := by
  induction left generalizing first with
  | nil => exact ⟨first, .nil first, h⟩
  | cons event rest ih =>
      cases h with
      | cons step run =>
          obtain ⟨middle, hrest, hright⟩ := ih run
          exact ⟨middle, .cons step hrest, hright⟩

/-- Numbers are given out in order, an open cursor reads an open statement, and
what a ledger holds was prepared where it is kept. -/
structure Sound (inTransaction : Bool) (ledger : Ledger) : Prop where
  statements : ∀ statement ∈ ledger.statements, statement.number < ledger.next
  marked :
      ∀ statement ∈ ledger.statements, statement.inTransaction = inTransaction
  cursors : ∀ cursor ∈ ledger.cursors, cursor.number < ledger.next
  reads : ∀ cursor ∈ ledger.cursors, ∀ statement,
    cursor.statement = some statement →
    statement ∈ ledger.statements

theorem sound_empty (inTransaction : Bool) (next : Nat) :
    Sound inTransaction (empty next) :=
  ⟨by simp [empty], by simp [empty], by simp [empty], by simp [empty]⟩

theorem Sound.skip (h : Sound inTransaction ledger) :
    Sound inTransaction ledger.skip :=
  ⟨fun statement hmem => Nat.lt_succ_of_lt (h.statements statement hmem),
    h.marked, fun cursor hmem => Nat.lt_succ_of_lt (h.cursors cursor hmem),
    h.reads⟩

theorem Sound.hold (h : Sound inTransaction ledger) (sql : String) :
    Sound inTransaction (ledger.hold ⟨ledger.next, sql, inTransaction⟩) where
  statements := by
    intro statement hmem
    rcases List.mem_append.mp hmem with hmem | hmem
    · exact h.skip.statements statement hmem
    · obtain rfl := List.mem_singleton.mp hmem
      exact Nat.lt_succ_self ledger.next
  marked := by
    intro statement hmem
    rcases List.mem_append.mp hmem with hmem | hmem
    · exact h.marked statement hmem
    · obtain rfl := List.mem_singleton.mp hmem
      rfl
  cursors := h.skip.cursors
  reads := fun cursor hmem statement hreads =>
    List.mem_append_left _ (h.reads cursor hmem statement hreads)

theorem Sound.openCursor (h : Sound inTransaction ledger)
    {statement : Option Prepared}
    (held : ∀ found, statement = some found → found ∈ ledger.statements) :
    Sound inTransaction (ledger.openCursor statement) where
  statements := h.skip.statements
  marked := h.marked
  cursors := by
    intro cursor hmem
    rcases List.mem_append.mp hmem with hmem | hmem
    · exact h.skip.cursors cursor hmem
    · obtain rfl := List.mem_singleton.mp hmem
      exact Nat.lt_succ_self ledger.next
  reads := by
    intro cursor hmem found hreads
    rcases List.mem_append.mp hmem with hmem | hmem
    · exact h.reads cursor hmem found hreads
    · obtain rfl := List.mem_singleton.mp hmem
      exact held found hreads

theorem Sound.closeCursor (h : Sound inTransaction ledger)
    (cursor : OpenCursor) : Sound inTransaction (ledger.closeCursor cursor) :=
  ⟨h.statements, h.marked,
    fun other hmem => h.cursors other (List.mem_of_mem_erase hmem),
    fun other hmem => h.reads other (List.mem_of_mem_erase hmem)⟩

theorem Sound.release (h : Sound inTransaction ledger) {statement : Prepared}
    (unread : ∀ cursor ∈ ledger.cursors, cursor.statement ≠ some statement) :
    Sound inTransaction (ledger.release statement) where
  statements :=
    fun other hmem => h.statements other (List.mem_of_mem_erase hmem)
  marked := fun other hmem => h.marked other (List.mem_of_mem_erase hmem)
  cursors := h.cursors
  reads := by
    intro cursor hmem found hreads
    have hne : found ≠ statement := by
      rintro rfl
      exact unread cursor hmem hreads
    exact (List.mem_erase_of_ne hne).mpr (h.reads cursor hmem found hreads)

theorem Step.sound (h : Step inTransaction first event last)
    (hsound : Sound inTransaction first) : Sound inTransaction last := by
  cases h with
  | executed | executedPrepared | fetched => exact hsound
  | unprepared | unqueried | unqueriedPrepared => exact hsound.skip
  | prepared => exact hsound.hold _
  | queried => exact hsound.openCursor (by simp)
  | queriedPrepared held =>
      refine hsound.openCursor ?_
      rintro found ⟨⟩
      exact held
  | closedCursor => exact hsound.closeCursor _
  | closedStatement _ _ unread => exact hsound.release unread

theorem Run.sound (h : Run inTransaction first trail last)
    (hsound : Sound inTransaction first) : Sound inTransaction last := by
  induction h with
  | nil ledger => exact hsound
  | cons step _ ih => exact ih (step.sound hsound)

theorem handles_hold (ledger : Ledger) (statement : Prepared) :
    (ledger.hold statement).handles.Perm
      (.statement statement.number :: ledger.handles) := by
  rw [handles, hold, List.map_append, List.append_assoc]
  exact List.perm_middle

theorem handles_openCursor (ledger : Ledger) (statement : Option Prepared) :
    (ledger.openCursor statement).handles.Perm
      (.cursor ledger.next :: ledger.handles) := by
  rw [handles, openCursor, List.map_append, ← List.append_assoc]
  exact List.perm_append_singleton _ _

theorem handles_release {ledger : Ledger} {statement : Prepared}
    (held : statement ∈ ledger.statements) :
    ledger.handles.Perm
      (.statement statement.number :: (ledger.release statement).handles) :=
  ((List.perm_cons_erase held).map _).append_right _

theorem handles_closeCursor {ledger : Ledger} {cursor : OpenCursor}
    (isOpen : cursor ∈ ledger.cursors) :
    ledger.handles.Perm
      (.cursor cursor.number :: (ledger.closeCursor cursor).handles) :=
  (((List.perm_cons_erase isOpen).map _).append_left _).trans List.perm_middle

theorem Step.balance (h : Step false first event last) :
    (event.opened?.toList ++ first.handles).Perm
      (event.closed?.toList ++ last.handles) := by
  cases h with
  | executed | executedPrepared | fetched => exact .rfl
  | unprepared | unqueried | unqueriedPrepared => exact .rfl
  | prepared => exact (handles_hold first _).symm
  | queried => exact (handles_openCursor first none).symm
  | queriedPrepared => exact (handles_openCursor first _).symm
  | closedCursor isOpen => exact handles_closeCursor (isOpen rfl)
  | closedStatement _ held => exact handles_release held

theorem filterMap_cons_toList {α β : Type} (f : α → Option β) (x : α)
    (xs : List α) : (x :: xs).filterMap f = (f x).toList ++ xs.filterMap f := by
  rw [List.filterMap_cons]
  cases f x <;> rfl

/-- Outside transactions every handle is closed as often as it is opened, but
for those that the ledger holds at the start or at the end. -/
theorem Run.balance (h : Run false first trail last) (handle : Handle) :
    (trail.filterMap Event.opened?).count handle + first.handles.count handle =
      (trail.filterMap Event.closed?).count handle +
        last.handles.count handle := by
  induction h with
  | nil ledger => rfl
  | cons step _ ih =>
      have hstep := step.balance.count_eq handle
      rw [List.count_append, List.count_append] at hstep
      rw [filterMap_cons_toList, filterMap_cons_toList, List.count_append,
        List.count_append]
      omega

theorem Step.fresh (h : Step inTransaction first event last) :
    first.next ≤ last.next ∧
      ∀ handle ∈ event.opened?,
        handle.number = first.next ∧ last.next = first.next + 1 := by
  cases h with
  | executed | executedPrepared | fetched | closedCursor | closedStatement =>
      exact ⟨Nat.le_refl _, by rintro handle ⟨⟩⟩
  | unprepared | unqueried | unqueriedPrepared =>
      exact ⟨Nat.le_succ _, by rintro handle ⟨⟩⟩
  | prepared | queried | queriedPrepared =>
      refine ⟨Nat.le_succ _, ?_⟩
      rintro handle ⟨⟩
      exact ⟨rfl, rfl⟩

/-- Handles opened later have greater numbers. -/
theorem Run.fresh (h : Run inTransaction first trail last) :
    (trail.filterMap Event.opened?).Nodup ∧
      ∀ handle ∈ trail.filterMap Event.opened?, first.next ≤ handle.number := by
  induction h with
  | nil ledger => exact ⟨.nil, by simp⟩
  | @cons first middle last event rest step _ ih =>
      obtain ⟨hle, hopened⟩ := step.fresh
      obtain ⟨hnodup, hlater⟩ := ih
      cases hevent : event.opened? with
      | none =>
          rw [List.filterMap_cons_none hevent]
          exact ⟨hnodup, fun handle hmem =>
            Nat.le_trans hle (hlater handle hmem)⟩
      | some opened =>
          obtain ⟨hnumber, hnext⟩ := hopened opened hevent
          rw [List.filterMap_cons_some hevent]
          constructor
          · refine List.nodup_cons.mpr ⟨fun hmem => ?_, hnodup⟩
            have := hlater opened hmem
            omega
          · rintro handle (_ | ⟨_, hmem⟩)
            · exact Nat.le_of_eq hnumber.symm
            · exact Nat.le_trans hle (hlater handle hmem)

theorem Step.keeps_statement (h : Step inTransaction first event last)
    {statement : Prepared} (held : statement ∈ first.statements) :
    statement ∈ last.statements ∨
      event.closed? = some (.statement statement.number) := by
  cases h with
  | executed | executedPrepared | fetched | closedCursor => exact .inl held
  | unprepared | unqueried | unqueriedPrepared | queried | queriedPrepared =>
      exact .inl held
  | prepared => exact .inl (List.mem_append_left _ held)
  | @closedStatement other =>
      by_cases hsame : statement = other
      · exact .inr (by rw [hsame]; rfl)
      · exact .inl ((List.mem_erase_of_ne hsame).mpr held)

theorem Step.keeps_cursor (h : Step inTransaction first event last)
    {cursor : OpenCursor} (isOpen : cursor ∈ first.cursors) :
    cursor ∈ last.cursors ∨
      event.closed? = some (.cursor cursor.number) ∧
        last.statements = first.statements := by
  cases h with
  | executed | executedPrepared | fetched | closedStatement => exact .inl isOpen
  | unprepared | unqueried | unqueriedPrepared | prepared => exact .inl isOpen
  | queried | queriedPrepared => exact .inl (List.mem_append_left _ isOpen)
  | @closedCursor other =>
      by_cases hsame : cursor = other
      · exact .inr (by rw [hsame]; exact ⟨rfl, rfl⟩)
      · exact .inl ((List.mem_erase_of_ne hsame).mpr isOpen)

theorem Run.closes_statement (h : Run inTransaction first trail last)
    {statement : Prepared} (held : statement ∈ first.statements)
    (gone : statement ∉ last.statements) :
    .statement statement.number ∈ trail.filterMap Event.closed? := by
  induction h with
  | nil ledger => exact absurd held gone
  | cons step _ ih =>
      rw [filterMap_cons_toList]
      rcases step.keeps_statement held with hkept | hclosed
      · exact List.mem_append_right _ (ih hkept gone)
      · rw [hclosed]
        exact List.mem_append_left _ List.mem_cons_self

/-- The trail closes the cursor and only then the statement. -/
def ClosedInOrder (trail : List Event) (cursor statement : Nat) : Prop :=
  ∃ earlier later, trail = earlier ++ later ∧
    .cursor cursor ∈ earlier.filterMap Event.closed? ∧
    .statement statement ∈ later.filterMap Event.closed?

/-- As long as the cursor is open, so is the statement that it reads. -/
theorem Run.closes_in_order (h : Run inTransaction first trail last)
    (hsound : Sound inTransaction first) {cursor : OpenCursor}
    {statement : Prepared} (isOpen : cursor ∈ first.cursors)
    (reads : cursor.statement = some statement) (gone : cursor ∉ last.cursors)
    (released : statement ∉ last.statements) :
    ClosedInOrder trail cursor.number statement.number := by
  induction h with
  | nil ledger => exact absurd isOpen gone
  | @cons first middle last event rest step run ih =>
      rcases step.keeps_cursor isOpen with hkept | ⟨hclosed, hsame⟩
      · obtain ⟨earlier, later, rfl, hcursor, hstatement⟩ :=
          ih (step.sound hsound) hkept gone released
        refine ⟨event :: earlier, later, rfl, ?_, hstatement⟩
        rw [filterMap_cons_toList]
        exact List.mem_append_right _ hcursor
      · -- the cursor is closed here, while its statement is still open
        have held : statement ∈ middle.statements := by
          rw [hsame]
          exact hsound.reads cursor isOpen statement reads
        refine ⟨[event], rest, rfl, ?_, run.closes_statement held released⟩
        rw [List.filterMap_cons_some hclosed]
        exact List.mem_cons_self

theorem Step.prepares (h : Step true first event last) :
    last.statements = first.statements ++ event.prepared?.toList := by
  cases h with
  | prepared => rfl
  | closedStatement outside => cases outside
  | _ => exact (List.append_nil _).symm

theorem Step.nodup_texts (h : Step true first event last)
    (hnodup : (first.statements.map Prepared.sql).Nodup) :
    (last.statements.map Prepared.sql).Nodup := by
  cases h with
  | prepared unknown =>
      rw [hold, List.map_append, List.nodup_append]
      refine ⟨hnodup, List.nodup_singleton _, ?_⟩
      rintro text hmem _ (_ | ⟨_, ⟨⟩⟩)
      obtain ⟨held, hheld, rfl⟩ := List.mem_map.mp hmem
      exact unknown rfl held hheld
  | closedStatement outside => cases outside
  | _ => exact hnodup

theorem Step.keepsTransaction (h : Step true first event last) :
    event.call.keepsTransaction = true := by
  cases h with
  | closedStatement outside => cases outside
  | _ => rfl

theorem Step.held_of_used (h : Step inTransaction first event last)
    {statement : Prepared} (hused : event.used? = some statement) :
    statement ∈ first.statements := by
  cases h with
  | executedPrepared held | unqueriedPrepared held | queriedPrepared held =>
      cases hused
      exact held
  | _ => cases hused

/-- A transaction holds what was prepared in it, and keeps all of it. -/
theorem Run.prepares (h : Run true first trail last) :
    last.statements = first.statements ++ trail.filterMap Event.prepared? := by
  induction h with
  | nil ledger => exact (List.append_nil _).symm
  | cons step _ ih =>
      rw [ih, step.prepares, filterMap_cons_toList, List.append_assoc]

theorem Run.nodup_texts (h : Run true first trail last)
    (hnodup : (first.statements.map Prepared.sql).Nodup) :
    (last.statements.map Prepared.sql).Nodup := by
  induction h with
  | nil ledger => exact hnodup
  | cons step _ ih => exact ih (step.nodup_texts hnodup)

theorem Run.keepsTransaction (h : Run true first trail last) :
    ∀ event ∈ trail, event.call.keepsTransaction = true := by
  induction h with
  | nil ledger => simp
  | cons step _ ih => exact List.forall_mem_cons.mpr ⟨step.keepsTransaction, ih⟩

end Ledger

/-- Whatever the events have opened they have closed, once, and nothing else. A
cursor on a prepared statement was closed before the statement. -/
structure Settled (events : List Event) : Prop where
  once : ∀ handle ∈ events.filterMap Event.opened?,
    (events.filterMap Event.closed?).count handle = 1
  own : ∀ handle ∈ events.filterMap Event.closed?,
    handle ∈ events.filterMap Event.opened?
  ordered : ∀ cursor statement arguments result,
    ⟨.queryPrepared cursor statement arguments, .ok result⟩ ∈ events →
      Ledger.ClosedInOrder events cursor statement.number

/-- A run outside transactions is settled if nothing is open before or after
it. -/
theorem Ledger.Run.settled {next : Nat} {trail : List Event} {last : Ledger}
    (h : Run false (.empty next) trail last) (statements : last.statements = [])
    (cursors : last.cursors = []) : Settled trail := by
  have hbalance (handle : Handle) :
      (trail.filterMap Event.opened?).count handle =
        (trail.filterMap Event.closed?).count handle := by
    have hrun := h.balance handle
    rw [handles, handles, statements, cursors] at hrun
    exact hrun
  refine ⟨fun handle hmem => ?_, fun handle hmem => ?_, ?_⟩
  · rw [← hbalance]
    exact List.count_eq_one_of_mem h.fresh.1 hmem
  · rw [← List.count_pos_iff, hbalance, List.count_pos_iff]
    exact hmem
  · intro cursor statement arguments result hmem
    obtain ⟨left, right, rfl⟩ := List.append_of_mem hmem
    obtain ⟨middle, hleft, hright⟩ := h.split
    have hsound := hleft.sound (sound_empty false next)
    cases hright with
    | cons step run =>
        have hlater := step.sound hsound
        cases step with
        | queriedPrepared held =>
            obtain ⟨earlier, later, rfl, hcursor, hstatement⟩ :=
              run.closes_in_order hlater
                (List.mem_append_right _ List.mem_cons_self) rfl
                (by simp [cursors]) (by simp [statements])
            refine ⟨left ++ _ :: earlier, later,
              (List.append_assoc left (_ :: earlier) later).symm, ?_,
              hstatement⟩
            rw [List.filterMap_append, filterMap_cons_toList]
            exact List.mem_append_right _ (List.mem_append_right _ hcursor)

/-- What happens in a transaction and then just before its end: each text is
prepared at most once, a statement is used after it was prepared, and all of
them are closed, once, behind everything else. A statement that failed to be
prepared is neither used nor closed. -/
structure Enclosed (during closing : List Event) : Prop where
  inner : ∀ event ∈ during, event.call.keepsTransaction = true
  once : ((during.filterMap Event.prepared?).map Prepared.sql).Nodup
  prepared_first :
      ∀ left event right statement, during = left ++ event :: right →
    event.used? = some statement → statement ∈ left.filterMap Event.prepared?
  closed : (closing.map Event.call).Perm
    ((during.filterMap Event.prepared?).map Call.closeStatement)

theorem Ledger.Run.enclosed {next : Nat} {during closing : List Event}
    {last : Ledger} (h : Run true (.empty next) during last)
    (hclosing : closing.map Event.call =
      last.statements.map Call.closeStatement) :
    Enclosed during closing := by
  have hheld : last.statements = during.filterMap Event.prepared? := h.prepares
  refine ⟨h.keepsTransaction, ?_, ?_, ?_⟩
  · rw [← hheld]
    exact h.nodup_texts .nil
  · rintro left event right statement rfl hused
    obtain ⟨middle, hleft, hright⟩ := h.split
    have hmiddle : middle.statements = left.filterMap Event.prepared? :=
      hleft.prepares
    cases hright with
    | cons step _ =>
        rw [← hmiddle]
        exact step.held_of_used hused
  · rw [hclosing, hheld]

end NamedSql.Backend
