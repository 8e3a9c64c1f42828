import NamedSql.Proofs.Cursor.Reading

/-!
Reading all the rows that are left. Reading goes on until a fetch fails, a row
does not scan, or the rows are exhausted, and fetches nothing beyond that.
Cursor and statement are closed in any case, and what closing them comes to
matters only if reading has come to the end.
-/

namespace NamedSql.Cursor

open Session

variable {σ : Type} {backend : Backend σ} {cursor : Cursor}

/-- Every row is fetched and scanned into an item, and then no row is found. -/
structure Exhausts (scan : List Value → Except Cause Unit × Destination)
    (rows : List (List Value)) (fetched : List (Except DriverError Unit))
    (items : List Destination) : Prop where
  fetched : fetched = List.replicate (rows.length + 1) (.ok ())
  scanned : ∀ row ∈ rows, (scan row).1 = .ok ()
  items : items = rows.map fun row => (scan row).2

/-- Behind rows that are fetched and scanned a fetch fails, or it finds a row
that does not scan. It is the last fetch. -/
inductive Breaks (scan : List Value → Except Cause Unit × Destination)
    (rows : List (List Value)) (fetched : List (Except DriverError Unit)) :
    Cause → Prop
  | unfetched (earlier rest : List (List Value)) {e : DriverError}
      (split : rows = earlier ++ rest)
      (scanned : ∀ row ∈ earlier, (scan row).1 = .ok ())
      (stopped : fetched =
        List.replicate earlier.length (.ok ()) ++ [.error e]) :
      Breaks scan rows fetched (.driver e)
  | unscanned (earlier rest : List (List Value)) {row : List Value}
      {cause : Cause} (split : rows = earlier ++ row :: rest)
      (scanned : ∀ row ∈ earlier, (scan row).1 = .ok ())
      (failed : (scan row).1 = .error cause)
      (stopped : fetched = List.replicate (earlier.length + 1) (.ok ())) :
      Breaks scan rows fetched cause

def Collected (scan : List Value → Except Cause Unit × Destination)
    (rows : List (List Value)) (fetched : List (Except DriverError Unit)) :
    Except Cause (List Destination) → Prop
  | .ok items => Exhausts scan rows fetched items
  | .error cause => Breaks scan rows fetched cause

variable {scan : List Value → Except Cause Unit × Destination}
  {rows : List (List Value)} {fetched : List (Except DriverError Unit)}

theorem Collected.cons (row : List Value)
    {result : Except Cause (List Destination)} (hscan : (scan row).1 = .ok ())
    (h : Collected scan rows fetched result) :
    Collected scan (row :: rows) (.ok () :: fetched)
      (((scan row).2 :: ·) <$> result) := by
  cases result with
  | ok items =>
      obtain ⟨rfl, hscanned, rfl⟩ := h
      exact ⟨rfl, List.forall_mem_cons.mpr ⟨hscan, hscanned⟩, rfl⟩
  | error cause =>
      cases h with
      | unfetched earlier rest hrows hscanned hfetched =>
          refine .unfetched (row :: earlier) rest ?_ ?_ ?_
          · rw [hrows, List.cons_append]
          · exact List.forall_mem_cons.mpr ⟨hscan, hscanned⟩
          · rw [hfetched, List.length_cons, List.replicate_succ,
              List.cons_append]
      | unscanned earlier rest hrows hscanned hfailed hfetched =>
          refine .unscanned (row :: earlier) rest ?_ ?_ hfailed ?_
          · rw [hrows, List.cons_append]
          · exact List.forall_mem_cons.mpr ⟨hscan, hscanned⟩
          · rw [hfetched, List.length_cons,
              List.replicate_succ (n := earlier.length + 1)]

theorem concat_error_ne_replicate (answers : List (Except DriverError Unit))
    (e : DriverError) (n : Nat) :
    answers ++ [.error e] ≠ List.replicate n (.ok ()) := by
  intro h
  have hmem : Except.error e ∈
      List.replicate n (Except.ok () : Except DriverError Unit) := by
    rw [← h]
    exact List.mem_append_right _ List.mem_cons_self
  cases List.eq_of_mem_replicate hmem

theorem Exhausts.not_breaks {items : List Destination} {cause : Cause}
    (h : Exhausts scan rows fetched items) :
    ¬Breaks scan rows fetched cause := by
  intro hbreaks
  cases hbreaks with
  | unfetched _ _ _ _ hfetched =>
      exact concat_error_ne_replicate _ _ _ (hfetched.symm.trans h.fetched)
  | unscanned _ _ hrows _ hfailed _ =>
      have hscanned :=
        h.scanned _ (hrows ▸ List.mem_append_right _ List.mem_cons_self)
      rw [hfailed] at hscanned
      cases hscanned

/-- The fetches tell where reading has stopped, and so why. -/
theorem Breaks.unique {cause other : Cause} (h : Breaks scan rows fetched cause)
    (hother : Breaks scan rows fetched other) : cause = other := by
  cases h with
  | unfetched _ _ _ _ hfetched =>
      rw [hfetched] at hother
      cases hother with
      | unfetched _ _ _ _ hsame => simpa using congrArg List.getLast? hsame
      | unscanned _ _ _ _ _ hsame =>
          exact absurd hsame (concat_error_ne_replicate _ _ _)
  | unscanned _ _ hrows _ hfailed hfetched =>
      cases hother with
      | unfetched _ _ _ _ hsame =>
          exact absurd (hsame.symm.trans hfetched)
            (concat_error_ne_replicate _ _ _)
      | unscanned _ _ hagain _ hstopped hsame =>
          have hlength := congrArg List.length (hfetched.symm.trans hsame)
          rw [List.length_replicate, List.length_replicate,
            Nat.add_right_cancel_iff] at hlength
          obtain ⟨-, htail⟩ := List.append_inj (hrows.symm.trans hagain) hlength
          rw [(List.cons.inj htail).1, hstopped] at hfailed
          exact (Except.error.inj hfailed).symm

theorem Collected.ok_iff {result : Except Cause (List Destination)}
    (h : Collected scan rows fetched result) {items : List Destination} :
    result = .ok items ↔ Exhausts scan rows fetched items := by
  cases result with
  | ok found =>
      constructor
      · rintro ⟨⟩
        exact h
      · intro hitems
        rw [hitems.items, Exhausts.items h]
  | error cause => exact ⟨nofun, fun hitems => absurd h hitems.not_breaks⟩

theorem Collected.error_iff {result : Except Cause (List Destination)}
    (h : Collected scan rows fetched result) {cause : Cause} :
    result = .error cause ↔ Breaks scan rows fetched cause := by
  cases result with
  | ok items =>
      exact ⟨nofun, fun hbreaks => absurd hbreaks (Exhausts.not_breaks h)⟩
  | error found =>
      constructor
      · rintro ⟨⟩
        exact h
      · intro hbreaks
        rw [Breaks.unique h hbreaks]

/-- The events of fetching from a cursor, with their answers. -/
def fetches (number : Nat) (fetched : List (Except DriverError Unit)) :
    List Backend.Event :=
  fetched.map fun answer => ⟨.fetch number, answer⟩

theorem scan_of_current {row : List Value} (hopen : cursor.closed = false)
    (hcurrent : cursor.current = some row) (into : Destination) :
    cursor.scan into = into.scan cursor.naming cursor.columns row := by
  rw [scan, hopen, hcurrent]
  rfl

/-- With more steps than there are rows, collecting comes to an end by itself.
It only moves the cursor. -/
theorem collect_leaves (fresh : Destination) {limit : Nat}
    (hopen : cursor.closed = false) (hlimit : cursor.pending.length < limit) :
    Leaves backend (collect backend fresh limit cursor) fun result trail =>
      ∃ fetched pending current, trail = fetches cursor.number fetched ∧
        Collected (fresh.scan cursor.naming cursor.columns ·) cursor.pending
            fetched result.1 ∧
        result.2 = { cursor with pending, current } := by
  induction limit generalizing cursor with
  | zero => exact absurd hlimit (Nat.not_lt_zero _)
  | succ limit ih =>
      rw [collect]
      apply (next_leaves hopen).bind
      rintro ⟨outcome, after⟩ _ ⟨e | reply, rfl, hresult⟩
      · cases hresult
        exact .pure ⟨[.error e], _, _, rfl, .unfetched [] _ rfl nofun rfl, rfl⟩
      · cases hresult
        cases hpending : cursor.pending with
        | nil => exact .pure ⟨[.ok ()], _, _, rfl, ⟨rfl, nofun, rfl⟩, rfl⟩
        | cons row rest =>
            let after : Cursor :=
              { cursor with pending := rest, current := some row }
            have hafter : after.closed = false := hopen
            have hscanned := scan_of_current hafter rfl fresh
            have hrest : after.pending.length < limit := by
              rw [hpending] at hlimit
              exact Nat.lt_of_succ_lt_succ hlimit
            simp only [List.head?_cons, Option.isSome_some, List.tail_cons]
            rw [hscanned]
            cases hscan : fresh.scan cursor.naming cursor.columns row with
            | mk outcome item =>
                cases outcome with
                | error cause =>
                    refine .pure ⟨[.ok ()], _, _, rfl, ?_, rfl⟩
                    exact .unscanned [] rest rfl nofun (by rw [hscan]) rfl
                | ok _ =>
                    apply (ih hafter hrest).bind
                    rintro ⟨collected, last⟩ _
                      ⟨fetched, pending, current, rfl, hcollected, hlast⟩
                    have hitem := hcollected.cons row (by rw [hscan])
                    rw [hscan] at hitem
                    exact .pure ⟨.ok () :: fetched, _, _,
                      by simp [fetches, after], hitem, hlast⟩

/-- A fault of reading counts first, then one of the cursor's close, then one of
the statement's. -/
def concluded : Except Cause (List Destination) → Except DriverError Unit →
    Except DriverError Unit → Except Cause (List Destination)
  | .error cause, _, _ => .error cause
  | .ok _, .error e, _ => .error (.driver e)
  | .ok _, .ok _, .error e => .error (.driver e)
  | .ok items, .ok _, .ok _ => .ok items

variable {collected : Except Cause (List Destination)}
  {closed released : Except DriverError Unit}

theorem concluded_eq_ok_iff {items : List Destination} :
    concluded collected closed released = .ok items ↔
      collected = .ok items ∧ closed = .ok () ∧ released = .ok () := by
  cases collected with
  | error cause => simp [concluded]
  | ok found => cases closed <;> cases released <;> simp [concluded]

theorem concluded_eq_error_iff {cause : Cause} :
    concluded collected closed released = .error cause ↔
      collected = .error cause ∨
      (∃ items, collected = .ok items) ∧ ∃ e, cause = .driver e ∧
        (closed = .error e ∨ closed = .ok () ∧ released = .error e) := by
  cases collected with
  | error found => simp [concluded]
  | ok items => cases closed <;> cases released <;> simp [concluded, eq_comm]

theorem fetchAll_leaves (fresh : Destination) (hopen : cursor.closed = false) :
    Leaves backend (cursor.fetchAll backend fresh) fun result trail =>
      ∃ collected fetched closed released ending,
        trail = fetches cursor.number fetched ++ ending ∧
          Closes cursor.number cursor.statement closed released ending ∧
          Collected (fresh.scan cursor.naming cursor.columns ·) cursor.pending
              fetched collected ∧
          result = concluded collected closed released := by
  rw [fetchAll]
  apply (collect_leaves fresh hopen (Nat.lt_succ_self _)).bind
  rintro ⟨collected, _⟩ _ ⟨fetched, pending, current, rfl, hcollected, rfl⟩
  have hlast :
      ({ cursor with pending, current } : Cursor).closed = false := hopen
  apply (close_leaves hlast).bind
  rintro ⟨outcome, _⟩ ending ⟨closed, released, hcloses, hresult⟩
  cases hresult
  refine .pure ⟨collected, fetched, closed, released, ending, by simp, hcloses,
    hcollected, ?_⟩
  cases collected <;> cases closed <;> cases released <;> rfl

/-- In terms of the query, what is left are the rows behind the delivered
ones. -/
theorem Place.fetchAll_leaves {naming : Naming} {opened : OpenedQuery}
    {steps : List Step} {history : List Told}
    (h : Place naming opened steps history cursor)
    (hopen : cursor.closed = false) (fresh : Destination) :
    Leaves backend (cursor.fetchAll backend fresh) fun result trail =>
      ∃ collected fetched closed released ending,
        trail = fetches opened.cursor fetched ++ ending ∧
          Closes opened.cursor opened.statement closed released ending ∧
          Collected (fresh.scan naming opened.result.columns ·)
            (opened.result.rows.drop (delivered history).length) fetched
            collected ∧
          result = concluded collected closed released := by
  have hrest :
      opened.result.rows.drop (delivered history).length = cursor.pending := by
    rw [h.rows, List.drop_left]
  have hcursor := h.reading hopen
  refine (Cursor.fetchAll_leaves fresh hopen).mono fun result trail hfetched =>
    ?_
  obtain ⟨collected, fetched, closed, released, ending, rfl, hcloses,
      hcollected, rfl⟩ := hfetched
  rw [hcursor] at hcloses hcollected
  rw [hrest]
  exact ⟨collected, fetched, closed, released, ending, by rw [hcursor]; rfl,
    hcloses, hcollected, rfl⟩

theorem fetchAll_of_closed (backend : Backend σ) (fresh : Destination)
    (hclosed : cursor.closed = true) :
    cursor.fetchAll backend fresh = pure (.error (.result .cursorClosed)) := by
  have hcollect : collect backend fresh (cursor.pending.length + 1) cursor =
      pure (.error (.result .cursorClosed), cursor) := by
    rw [collect, next_of_closed backend hclosed, pure_bind]
  rw [fetchAll, hcollect, pure_bind]
  simp only
  rw [close_of_closed backend hclosed, pure_bind]
  rfl

/-- Reading all rows that are left gives their items, in order, exactly if every
fetch, every scan and both closes succeed. Otherwise it gives the first fault of
a fetch or a scan, else that of the cursor's close, else that of the
statement's. No row behind the failing one is fetched, and cursor and statement
are closed in any case. A closed cursor has nothing left to ask for. -/
theorem fetchAll_returns_rest_or_first_fault (backend : Backend σ)
    (naming : Naming) (opened : OpenedQuery) (steps : List Step)
    (fresh : Destination) :
    Gives ((ofQuery naming opened).read backend steps) fun (history, cursor) =>
      let rest := opened.result.rows.drop (delivered history).length
      let scan row := fresh.scan naming opened.result.columns row
      if Step.close ∈ steps then
        cursor.fetchAll backend fresh = pure (.error (.result .cursorClosed))
      else
        Leaves backend (cursor.fetchAll backend fresh) fun result trail =>
          ∃ fetched closed released ending,
            trail = fetches opened.cursor fetched ++ ending ∧
              Closes opened.cursor opened.statement closed released ending ∧
              (∀ items, result = .ok items ↔
                Exhausts scan rest fetched items ∧ closed = .ok () ∧
                  released = .ok ()) ∧
              ∀ cause, result = .error cause ↔ Breaks scan rest fetched cause ∨
                (∃ items, Exhausts scan rest fetched items) ∧ ∃ e,
                  cause = .driver e ∧
                  (closed = .error e ∨
                    closed = .ok () ∧ released = .error e) := by
  intro before
  have hplace := read_place backend (Place.start naming opened) steps before
  rw [List.nil_append, List.nil_append] at hplace
  generalize (((ofQuery naming opened).read backend steps).run before).1 =
    result at hplace ⊢
  obtain ⟨history, cursor⟩ := result
  have hclosed := hplace.closed
  simp only
  split
  · next hclose =>
      rw [decide_eq_true hclose] at hclosed
      exact fetchAll_of_closed backend fresh hclosed
  · next hclose =>
      rw [decide_eq_false hclose] at hclosed
      refine (hplace.fetchAll_leaves hclosed fresh).mono
        fun result trail hfetched => ?_
      obtain ⟨collected, fetched, closed, released, ending, rfl, hcloses,
          hcollected, rfl⟩ :=
        hfetched
      refine ⟨fetched, closed, released, ending, rfl, hcloses, ?_, ?_⟩
      · intro items
        rw [concluded_eq_ok_iff, hcollected.ok_iff]
      · intro cause
        rw [concluded_eq_error_iff, hcollected.error_iff]
        simp only [hcollected.ok_iff]

end NamedSql.Cursor
