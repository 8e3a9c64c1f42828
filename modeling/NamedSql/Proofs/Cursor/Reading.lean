import NamedSql.Cursor
import NamedSql.Proofs.Session.Trail

/-!
Reading a cursor step by step. As long as it is open, the rows that it has
delivered and those that are pending are the rows of the query, and it stands
where the last step that moved it has left it. A failed fetch moves nothing.
Once closed it answers every step by itself.
-/

namespace NamedSql.Cursor

open Session

variable {σ : Type} {backend : Backend σ} {cursor : Cursor} {naming : Naming}
  {opened : OpenedQuery}

inductive Step where
  | next
  | scan (into : Destination)
  | close
deriving DecidableEq

/-- What a step is answered with. A row that `next` has found is the current one
then, and a scan tells what it has made of its destination. -/
inductive Told where
  | next (outcome : Except Cause Bool) (current : Option (List Value))
  | scan (outcome : Except Cause Unit) (into : Destination)
  | close (outcome : Except Cause Unit)

def take (backend : Backend σ) (cursor : Cursor) :
    Step → Action σ (Told × Cursor)
  | .next => do
      let (outcome, cursor) ← cursor.next backend
      return (.next outcome cursor.current, cursor)
  | .scan into => do
      let (outcome, into) := cursor.scan into
      return (.scan outcome into, cursor)
  | .close => do
      let (outcome, cursor) ← cursor.close backend
      return (.close outcome, cursor)

def read (backend : Backend σ) (cursor : Cursor) :
    List Step → Action σ (List Told × Cursor)
  | [] => return ([], cursor)
  | step :: rest => do
      let (told, cursor) ← cursor.take backend step
      let (later, cursor) ← cursor.read backend rest
      return (told :: later, cursor)

/-- Where a step has moved the cursor: to a row, or past the last one. -/
def Told.moved? : Told → Option (Option (List Value))
  | .next (.ok true) current => some current
  | .next (.ok false) _ => some none
  | _ => none

/-- The rows that the cursor has been moved to. -/
def delivered (history : List Told) : List (List Value) :=
  history.filterMap fun told => told.moved?.join

/-- The row that the cursor has been moved to last, unless that was past the
last one. -/
def standing (history : List Told) : Option (List Value) :=
  (history.filterMap Told.moved?).getLast?.join

theorem delivered_concat (history : List Told) (told : Told) :
    delivered (history ++ [told]) =
      delivered history ++ told.moved?.join.toList := by
  rw [delivered, List.filterMap_append]
  cases h : told.moved?.join <;> simp [delivered, h]

theorem standing_concat (history : List Told) (told : Told) :
    standing (history ++ [told]) = told.moved?.elim (standing history) id := by
  rw [standing, List.filterMap_append]
  cases h : told.moved? <;> simp [standing, h]

/-- The events of closing a cursor and the statement that it may own, with their
answers. -/
inductive Closes (number : Nat) :
    Option Prepared → Except DriverError Unit → Except DriverError Unit →
      List Backend.Event → Prop
  | alone {closed : Except DriverError Unit} :
      Closes number none closed (.ok ()) [⟨.closeCursor number, closed⟩]
  | owning {statement : Prepared} {closed released : Except DriverError Unit} :
      Closes number (some statement) closed released
        [⟨.closeCursor number, closed⟩, ⟨.closeStatement statement, released⟩]

theorem next_leaves (hopen : cursor.closed = false) :
    Leaves backend (cursor.next backend) fun result trail => ∃ answer,
      trail = [⟨.fetch cursor.number, answer⟩] ∧
        match answer with
        | .error e => result = (.error (.driver e), cursor)
        | .ok _ => result = (.ok cursor.pending.head?.isSome,
            { cursor with
              current := cursor.pending.head?,
              pending := cursor.pending.tail }) := by
  rw [next, hopen]
  apply (ask_leaves backend _).bind
  rintro (e | reply) _ rfl
  · exact .pure ⟨_, rfl, rfl⟩
  · cases hpending : cursor.pending with
    | nil => exact .pure ⟨_, rfl, by simp⟩
    | cons row rest => exact .pure ⟨_, rfl, rfl⟩

theorem close_leaves (hopen : cursor.closed = false) :
    Leaves backend (cursor.close backend) fun result trail => ∃ closed released,
      Closes cursor.number cursor.statement closed released trail ∧
        result = ((closed >>= fun _ => released).mapError Cause.driver,
          { cursor with
            closed := true, current := none, statement := none }) := by
  rw [close, hopen]
  apply (ask_leaves backend _).bind
  rintro closed _ rfl
  rw [closeStatement]
  cases cursor.statement with
  | none => exact .pure ⟨closed, .ok (), .alone, rfl⟩
  | some statement =>
      apply (ask_leaves backend _).bind
      rintro released _ rfl
      exact .pure ⟨closed, released, .owning, rfl⟩

/-- How a closed cursor answers. -/
def Step.refused : Step → Told
  | .next => .next (.error (.result .cursorClosed)) none
  | .scan into => .scan (.error (.result .cursorClosed)) into
  | .close => .close (.ok ())

theorem next_of_closed (backend : Backend σ) (hclosed : cursor.closed = true) :
    cursor.next backend = pure (.error (.result .cursorClosed), cursor) := by
  rw [next, hclosed]
  rfl

theorem close_of_closed (backend : Backend σ) (hclosed : cursor.closed = true) :
    cursor.close backend = pure (.ok (), cursor) := by
  rw [close, hclosed]
  rfl

theorem take_of_closed (backend : Backend σ) (hclosed : cursor.closed = true)
    (hcurrent : cursor.current = none) (step : Step) :
    cursor.take backend step = pure (step.refused, cursor) := by
  cases step with
  | next =>
      rw [take, next_of_closed backend hclosed, pure_bind, Step.refused,
        ← hcurrent]
  | scan into =>
      rw [take, scan, hclosed]
      rfl
  | close => rw [take, close_of_closed backend hclosed, pure_bind, Step.refused]

theorem read_of_closed (backend : Backend σ) (hclosed : cursor.closed = true)
    (hcurrent : cursor.current = none) (steps : List Step) :
    cursor.read backend steps = pure (steps.map Step.refused, cursor) := by
  induction steps with
  | nil => rfl
  | cons step rest ih =>
      rw [read, take_of_closed backend hclosed hcurrent step, pure_bind]
      simp only [ih]
      rfl

/-- Where a cursor is after steps with their answers. The rows are accounted
for, delivered or pending, and an open cursor stands on the row that it was
moved to last. -/
structure Place (naming : Naming) (opened : OpenedQuery) (steps : List Step)
    (history : List Told) (cursor : Cursor) : Prop where
  rows : opened.result.rows = delivered history ++ cursor.pending
  closed : cursor.closed = decide (Step.close ∈ steps)
  reading : cursor.closed = false → cursor =
    { ofQuery naming opened with
      pending := cursor.pending, current := standing history }
  left : cursor.closed = true → cursor.current = none

theorem Place.start (naming : Naming) (opened : OpenedQuery) :
    Place naming opened [] [] (ofQuery naming opened) :=
  ⟨rfl, rfl, fun _ => rfl, fun _ => rfl⟩

variable {steps : List Step} {history : List Told}

/-- A step that moves nothing leaves the cursor in its place. -/
theorem Place.stay (h : Place naming opened steps history cursor) {step : Step}
    {told : Told} (hmoved : told.moved? = none)
    (hstep : step = .close → cursor.closed = true) :
    Place naming opened (steps ++ [step]) (history ++ [told]) cursor where
  rows := by simpa [delivered_concat, hmoved] using h.rows
  closed := by
    rw [h.closed] at hstep ⊢
    by_cases hclose : step = .close
    · simpa [hclose] using hstep hclose
    · simp [Ne.symm hclose]
  reading hopen := by simpa [standing_concat, hmoved] using h.reading hopen
  left := h.left

/-- A fetch that does not fail moves an open cursor to the first row that is
pending. -/
theorem Place.move (h : Place naming opened steps history cursor)
    (hopen : cursor.closed = false) :
    Place naming opened (steps ++ [.next])
      (history ++
        [.next (.ok cursor.pending.head?.isSome) cursor.pending.head?])
      { cursor with
        current := cursor.pending.head?, pending := cursor.pending.tail } := by
  have hmoved :
      (Told.next (.ok cursor.pending.head?.isSome)
        cursor.pending.head?).moved? =
        some cursor.pending.head? := by
    cases cursor.pending <;> rfl
  constructor
  case rows =>
    rw [delivered_concat, hmoved, h.rows]
    cases cursor.pending <;> simp
  case closed => simpa using h.closed
  case reading =>
    intro _
    rw [standing_concat, hmoved, h.reading hopen]
    rfl
  case left => exact fun hclosed => Bool.noConfusion (hopen.symm.trans hclosed)

theorem Place.close (h : Place naming opened steps history cursor)
    (outcome : Except Cause Unit) :
    Place naming opened (steps ++ [.close]) (history ++ [.close outcome])
      { cursor with closed := true, current := none, statement := none } where
  rows := by simpa [delivered_concat, Told.moved?] using h.rows
  closed := by simp
  reading := nofun
  left _ := rfl

theorem take_place (backend : Backend σ)
    (h : Place naming opened steps history cursor) (step : Step) :
    Gives (cursor.take backend step) fun result =>
      Place naming opened (steps ++ [step]) (history ++ [result.1])
        result.2 := by
  cases hclosed : cursor.closed with
  | true =>
      rw [take_of_closed backend hclosed (h.left hclosed) step]
      exact .pure (h.stay (by cases step <;> rfl) fun _ => hclosed)
  | false =>
      cases step with
      | next =>
          rw [take]
          refine (next_leaves hclosed).gives.bind ?_
          rintro ⟨outcome, after⟩ ⟨_, e | reply, -, hresult⟩
          · cases hresult
            exact .pure (h.stay rfl nofun)
          · cases hresult
            exact .pure (h.move hclosed)
      | scan into =>
          rw [take]
          exact .pure (h.stay rfl nofun)
      | close =>
          rw [take]
          refine (close_leaves hclosed).gives.bind ?_
          rintro ⟨outcome, after⟩ ⟨_, _, _, -, hresult⟩
          cases hresult
          exact .pure (h.close _)

/-- Whatever the steps, the answers place the cursor. -/
theorem read_place (backend : Backend σ)
    (h : Place naming opened steps history cursor) (more : List Step) :
    Gives (cursor.read backend more) fun result =>
      Place naming opened (steps ++ more) (history ++ result.1) result.2 := by
  induction more generalizing steps history cursor with
  | nil => exact .pure (by simpa using h)
  | cons step rest ih =>
      rw [read]
      refine (take_place backend h step).bind ?_
      rintro ⟨told, after⟩ hafter
      refine (ih hafter).bind ?_
      rintro ⟨later, last⟩ hlast
      exact .pure (by simpa using hlast)

/-- How a cursor that is still open goes on: what each step would ask and come
to next. -/
structure Serves (backend : Backend σ) (naming : Naming) (opened : OpenedQuery)
    (history : List Told) (cursor : Cursor) : Prop where
  /-- Unless the fetch fails, the row behind those delivered so far comes
  next. -/
  next : Leaves backend (cursor.next backend) fun result trail => ∃ answer,
    trail = [⟨.fetch opened.cursor, answer⟩] ∧
      match answer with
      | .error e => result = (.error (.driver e), cursor)
      | .ok _ =>
          result.1 =
            .ok opened.result.rows[(delivered history).length]?.isSome ∧
            result.2.current = opened.result.rows[(delivered history).length]?
  scan : ∀ into, cursor.scan into =
    match standing history with
    | none => (.error (.result .noCurrentRow), into)
    | some row => into.scan naming opened.result.columns row
  close : Leaves backend (cursor.close backend) fun result trail =>
    ∃ closed released,
      Closes opened.cursor opened.statement closed released trail ∧
        result.1 = (closed >>= fun _ => released).mapError Cause.driver

theorem Place.serves (h : Place naming opened steps history cursor)
    (hopen : cursor.closed = false) :
    Serves backend naming opened history cursor where
  next := by
    have hrow : opened.result.rows[(delivered history).length]? =
        cursor.pending.head? := by
      rw [h.rows, List.getElem?_append_right (Nat.le_refl _), Nat.sub_self,
        List.head?_eq_getElem?]
    have hnumber : cursor.number = opened.cursor := by rw [h.reading hopen]; rfl
    refine (next_leaves hopen).mono fun result trail hnext => ?_
    obtain ⟨answer, rfl, hanswer⟩ := hnext
    refine ⟨answer, by rw [hnumber], ?_⟩
    cases answer with
    | error e => exact hanswer
    | ok reply =>
        obtain rfl := hanswer
        exact ⟨by rw [hrow], hrow.symm⟩
  scan into := by
    rw [scan, hopen, h.reading hopen]
    rfl
  close := by
    have howned : cursor.number = opened.cursor ∧
        cursor.statement = opened.statement := by
      rw [h.reading hopen]
      exact ⟨rfl, rfl⟩
    refine (close_leaves hopen).mono fun result trail hclose => ?_
    obtain ⟨closed, released, hcloses, rfl⟩ := hclose
    exact ⟨closed, released, by rwa [howned.1, howned.2] at hcloses, rfl⟩

/-- Reading follows the rows. Whatever the steps and the answers to what they
ask, the rows that a cursor delivers are those of its query, in order and
without a gap. Until it is closed, a scan reads the row that it was moved to
last. Once it is closed, even by a close that failed, every step is answered
without the backend, and changes nothing. -/
theorem read_follows_rows (backend : Backend σ) (naming : Naming)
    (opened : OpenedQuery) (steps : List Step) :
    Gives ((ofQuery naming opened).read backend steps) fun (history, cursor) =>
      delivered history <+: opened.result.rows ∧
        if Step.close ∈ steps then
          ∀ later, cursor.read backend later =
            pure (later.map Step.refused, cursor)
        else Serves backend naming opened history cursor := by
  intro before
  have hplace := read_place backend (Place.start naming opened) steps before
  rw [List.nil_append, List.nil_append] at hplace
  refine ⟨⟨_, hplace.rows.symm⟩, ?_⟩
  have hclosed := hplace.closed
  split
  · next hclose =>
      rw [decide_eq_true hclose] at hclosed
      exact read_of_closed backend hclosed (hplace.left hclosed)
  · next hclose =>
      rw [decide_eq_false hclose] at hclosed
      exact hplace.serves hclosed

end NamedSql.Cursor
