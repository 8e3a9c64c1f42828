import NamedSql.Proofs.Batch.Recovery
import NamedSql.Proofs.Binding.Arity
import NamedSql.Proofs.Execute.Asked

/-!
Which rows a batch accepts. Where the first row has a shape, the check refuses a
list exactly for a misfit in it; a list that does not open with a row passes the
check, but nothing is executed for it. Rows by name are judged by how many
entries they have, not by which names these are under: that is enough for every
row that binds, unless a name stands in several slots.
-/

namespace NamedSql

namespace Param

theorem isComposite_iff_kindName {p : Param} : p.isComposite = true ↔
    p.kindName = "sequence" ∨ p.kindName = "mapping" ∨
      p.kindName = "record" := by
  cases p <;> simp [isComposite, kindName]

/-- What is no row is not named like one either. -/
theorem kindName_ne_of_shapeless {row first : Param} {expected : String}
    (hrow : row.rowShape? = none) (hfirst : first.rowShape? = some expected) :
    row.kindName ≠ expected := by
  obtain ⟨hcomposite, rfl⟩ : first.unwrapped.isComposite = true ∧
      first.unwrapped.kindName = expected := by simpa [rowShape?] using hfirst
  intro hsame
  rw [isComposite_iff_kindName, ← hsame, ← isComposite_iff_kindName]
    at hcomposite
  cases row with
  | sequence | mapping | record => cases hrow
  | scalar | optional | erased => cases hcomposite

theorem length_entriesByName {entries : List (Param × Param)}
    {values : NamedParams} (h : entriesByName entries = .ok values) :
    values.length = entries.length := by
  fun_induction entriesByName entries generalizing values with
  | case1 =>
      obtain rfl := Except.ok.inj h
      rfl
  | case2 name value rest ih =>
      obtain ⟨others, hothers, rfl⟩ := Fallible.map_eq_ok_iff.mp h
      rw [List.length_cons, List.length_cons, ih hothers]
  | case3 => cases h

theorem rowWidth_of_present {row p : Param} (h : row.present = .ok p) :
    row.rowWidth = p.rowWidth := by
  rw [present.eq_def] at h
  split at h
  · cases h
  · cases h
  · obtain rfl := Except.ok.inj h
    rw [rowWidth]
  · obtain rfl := Except.ok.inj h
    rfl

end Param

namespace Batch

open Backend

variable {σ : Type} {s : Statement}

/-- A row that does not fit into a list of rows. Seen through one optional it is
no mapping, record or list, or it has another shape than the first row, or it
supplies too few values. -/
inductive Misfit (s : Statement) (rows : List Param) (row : Param) : Prop where
  | shapeless (none : row.rowShape? = none)
  | shape (differs : row.rowShape? ≠ rows.head?.bind Param.rowShape?)
  | width (short : row.rowWidth < s.columns.length)

/-- Behind a first row that is one, the check finds every misfit. -/
theorem check_eq_ok_iff {rows : List Param}
    (hfirst : (rows.head?.bind Param.rowShape?).isSome) :
    check s rows = .ok () ↔ ∀ row ∈ rows, ¬Misfit s rows row := by
  obtain ⟨expected, hexpected⟩ := Option.isSome_iff_exists.mp hfirst
  obtain ⟨first, -, hshape⟩ := Option.bind_eq_some_iff.mp hexpected
  have hcheck : check s rows = checkRows s.columns.length expected 0 rows := by
    simp [check, hexpected]
  rw [hcheck, checkRows_eq_ok_iff]
  refine forall₂_congr fun row _ => ?_
  constructor
  · rintro ⟨hfound, hwidth⟩ hmisfit
    cases hrow : row.rowShape? with
    | none =>
        rw [hrow] at hfound
        exact Param.kindName_ne_of_shapeless hrow hshape hfound
    | some found =>
        rw [hrow] at hfound
        cases hmisfit with
        | shapeless hnone => rw [hnone] at hrow; cases hrow
        | shape differs =>
            exact differs (by rw [hrow, hexpected]; exact congrArg some hfound)
        | width short => omega
  · intro hfits
    have hrow : row.rowShape? = some expected := by
      by_contra hdiffers
      exact hfits (.shape (by rwa [hexpected]))
    refine ⟨by rw [hrow]; rfl, ?_⟩
    by_contra hshort
    exact hfits (.width (by omega))

theorem Refused.misfit {rows : List Param} {index : Nat} {cause : Cause}
    (h : Refused s rows index cause) : ∃ row ∈ rows, Misfit s rows row := by
  cases h with
  | @shape row expected at_index first differs =>
      refine ⟨row, List.mem_of_getElem? at_index,
        .shape fun hsame => differs ?_⟩
      rw [hsame, first]
      rfl
  | width at_index short =>
      exact ⟨_, List.mem_of_getElem? at_index, .width short⟩

/-- Nothing is executed where the first row does not bind. -/
theorem Swept.nothing_done {row : Param} {rest : List Param}
    {done last : List Executed} {pass : Pass}
    (h : Swept s (row :: rest) done last pass)
    (hunbound : ∀ arguments, s.bindRow row ≠ .ok arguments) :
    done = [] ∧ last = [] ∧ pass.failure ≠ none := by
  have hdone : done = [] := by
    cases done with
    | nil => rfl
    | cons executed others =>
        have happlied := h.applied
        rw [List.length_cons, List.take_succ_cons] at happlied
        cases happlied with
        | cons hrow _ =>
            cases hrow with
            | intro bound _ => exact absurd bound (hunbound _)
  subst hdone
  have hstopped := h.stopped
  rw [List.length_nil, List.drop_zero] at hstopped
  generalize pass.failure = failure at hstopped
  cases hstopped with
  | unprepared | unbound => exact ⟨rfl, rfl, by simp⟩
  | refused bound | withoutId bound => exact absurd bound (hunbound _)

theorem Ran.nothing_done {row : Param} {rest : List Param} {trail : List Event}
    {result : Except Failure Tally} (h : Ran s (row :: rest) trail result)
    (hunbound : ∀ arguments, s.bindRow row ≠ .ok arguments) :
    (∃ failure, result = .error failure) ∧ executions trail = [] := by
  cases h with
  | completed only =>
      obtain ⟨_, _, _, _, hpass⟩ | ⟨_, _, _, _, hswept⟩ :=
        only.swept_or_rejected
      · cases hpass
      · exact absurd rfl (hswept.nothing_done hunbound).2.2
  | failed only _ =>
      refine ⟨⟨_, rfl⟩, ?_⟩
      obtain ⟨_, _, _, rfl, _⟩ | ⟨_, done, last, htrail, hswept⟩ :=
        only.swept_or_rejected
      · rfl
      · obtain ⟨rfl, rfl, -⟩ := hswept.nothing_done hunbound
        exact htrail
  | resumed first second =>
      -- the first pass applies no row, so the second one starts from the same
      -- row
      obtain ⟨_, _, _, _, _, _, _, hfirst, hsecond⟩ :=
        first.swept_of_lost second
      obtain ⟨rfl, -⟩ := hfirst.nothing_done hunbound
      exact absurd rfl (hsecond.nothing_done hunbound).2.2
  | resumedFailed first second =>
      refine ⟨⟨_, rfl⟩, ?_⟩
      obtain ⟨_, _, _, _, _, hleft, hright, hfirst, hsecond⟩ :=
        first.swept_of_lost second
      obtain ⟨rfl, rfl, -⟩ := hfirst.nothing_done hunbound
      obtain ⟨rfl, rfl, -⟩ := hsecond.nothing_done hunbound
      rw [executions_append, hleft, hright]
      rfl

/-- A list that is refused is not asked for. -/
theorem Ran.unasked {rows : List Param} {trail : List Event}
    {result : Except Failure Tally} (h : Ran s rows trail result)
    (hrefused : check s rows ≠ .ok ()) :
    (∃ failure, result = .error failure) ∧ trail = [] := by
  cases h with
  | completed only =>
      obtain ⟨_, _, _, _, hpass⟩ | ⟨hcheck, _⟩ := only.swept_or_rejected
      · cases hpass
      · exact absurd hcheck hrefused
  | failed only _ =>
      obtain ⟨_, _, _, rfl, _⟩ | ⟨hcheck, _⟩ := only.swept_or_rejected
      · exact ⟨⟨_, rfl⟩, rfl⟩
      · exact absurd hcheck hrefused
  | resumed first second => exact absurd (first.swept_of_lost second).1 hrefused
  | resumedFailed first second =>
      exact absurd (first.swept_of_lost second).1 hrefused

/-- A batch with a misfit fails and executes nothing. It does not even prepare,
unless the list opens with something that is no row. -/
theorem Ran.of_misfit {rows : List Param} {row : Param} {trail : List Event}
    {result : Except Failure Tally} (h : Ran s rows trail result)
    (hmem : row ∈ rows) (hmisfit : Misfit s rows row) :
    (∃ failure, result = .error failure) ∧ executions trail = [] ∧
      ((rows.head?.bind Param.rowShape?).isSome → trail = []) := by
  cases hfirst : (rows.head?.bind Param.rowShape?).isSome with
  | true =>
      have hrefused : check s rows ≠ .ok () := fun hcheck =>
        (check_eq_ok_iff hfirst).mp hcheck row hmem hmisfit
      obtain ⟨hfails, rfl⟩ := h.unasked hrefused
      exact ⟨hfails, rfl, fun _ => rfl⟩
  | false =>
      cases rows with
      | nil => cases hmem
      | cons first rest =>
          have hunbound (arguments : List Value) :
              s.bindRow first ≠ .ok arguments := by
            intro hbound
            have hshape : first.rowShape?.isSome = false := hfirst
            rw [rowShape?_of_bindRow hbound] at hshape
            cases hshape
          obtain ⟨hfails, hnothing⟩ := h.nothing_done hunbound
          exact ⟨hfails, hnothing, fun hsome => nomatch hsome⟩

/-- A row that supplies its values by name, with the kind of row that it is. -/
inductive NamedRow : String → Param → NamedParams → Prop where
  | mapping {row : Param} {entries : List (Param × Param)}
      {values : NamedParams} (holds : row.present = .ok (.mapping entries))
      (texts : Param.entriesByName entries = .ok values) :
      NamedRow "mapping" row values
  | record {row : Param} {fields : NamedParams}
      (holds : row.present = .ok (.record fields)) :
      NamedRow "record" row fields

theorem NamedRow.rowShape?_eq {kind : String} {row : Param}
    {values : NamedParams} (h : NamedRow kind row values) :
    row.rowShape? = some kind := by
  cases h with
  | mapping holds _ =>
      rw [Param.rowShape?, unwrapped_of_present holds]
      rfl
  | record holds =>
      rw [Param.rowShape?, unwrapped_of_present holds]
      rfl

/-- What counts is the number of the entries, under whatever names. -/
theorem NamedRow.rowWidth_eq {kind : String} {row : Param}
    {values : NamedParams} (h : NamedRow kind row values) :
    row.rowWidth = values.length := by
  cases h with
  | mapping holds texts =>
      rw [Param.rowWidth_of_present holds, Param.length_entriesByName texts]
      rfl
  | record holds => rw [Param.rowWidth_of_present holds]; rfl

theorem NamedRow.bindRow_eq {kind : String} {row : Param} {values : NamedParams}
    (h : NamedRow kind row values) : s.bindRow row = s.bindRowNamed values := by
  cases h with
  | mapping holds texts => simp only [Statement.bindRow, holds, texts]
  | record holds => simp only [Statement.bindRow, holds]

/-- Rows by name that are all of one kind are accepted exactly where each has as
many entries as there are columns. -/
theorem check_eq_ok_iff_of_named {kind : String} {rows : List Param}
    {named : List NamedParams} (h : List.Forall₂ (NamedRow kind) rows named) :
    check s rows = .ok () ↔
      ∀ values ∈ named, s.columns.length ≤ values.length := by
  have heach : (∀ row ∈ rows, row.rowShape?.getD row.kindName = kind ∧
      s.columns.length ≤ row.rowWidth) ↔
        ∀ values ∈ named, s.columns.length ≤ values.length := by
    induction h with
    | nil => simp
    | cons hrow _ ih => simp [ih, hrow.rowShape?_eq, hrow.rowWidth_eq]
  rw [← heach]
  cases h with
  | nil => simp [check]
  | cons hrow _ =>
      rw [← checkRows_eq_ok_iff, check, List.head?_cons, Option.bind_some,
        hrow.rowShape?_eq]

/-- Slots with different names need as many entries, so what binds has enough of
them. -/
theorem length_columns_le_of_bindRowNamed {values : NamedParams}
    {arguments : List Value} (hdistinct : (s.columns.map Column.name).Nodup)
    (h : s.bindRowNamed values = .ok arguments) :
    s.columns.length ≤ values.length := by
  have hnames : s.columns.map Column.name ⊆ values.map Prod.fst := by
    intro name hname
    obtain ⟨column, hcolumn, rfl⟩ := List.mem_map.mp hname
    obtain ⟨value, hvalue⟩ := Fallible.exists_of_mapM_eq_ok h column hcolumn
    obtain ⟨p, hlookup, -⟩ := Fallible.bind_eq_ok_iff.mp hvalue
    rw [Statement.lookupNamed] at hlookup
    split at hlookup
    · next hfound => exact NamedParams.mem_of_find? hfound
    · cases hlookup
  have hle := (List.subperm_of_subset hdistinct hnames).length_le
  rwa [List.length_map, List.length_map] at hle

theorem head_rowShape?_of_binds {rows : List Param} (hne : rows ≠ [])
    (hbinds : ∀ row ∈ rows, ∃ arguments, s.bindRow row = .ok arguments) :
    (rows.head?.bind Param.rowShape?).isSome := by
  cases rows with
  | nil => exact absurd rfl hne
  | cons first rest =>
      obtain ⟨arguments, hbound⟩ := hbinds first List.mem_cons_self
      exact rowShape?_of_bindRow hbound

theorem succeeded_of_mem_executions {trail : List Event}
    (h : ∀ event ∈ trail, event.succeeded = true) :
    ∀ executed ∈ executions trail, executed.succeeded = true := by
  intro executed hmem
  obtain ⟨event, hevent, hexecuted⟩ := List.mem_filterMap.mp hmem
  rw [Event.succeeded_of_executed? hexecuted, h event hevent]

/-- Rows that are accepted and bind are all applied, unless the backend reports
a fault or withholds an id. -/
theorem Ran.exists_tally {rows : List Param} {trail : List Event}
    {result : Except Failure Tally} (h : Ran s rows trail result)
    (hcheck : check s rows = .ok ())
    (hbinds : ∀ row ∈ rows, ∃ arguments, s.bindRow row = .ok arguments)
    (hfaultless : ∀ event ∈ trail, event.succeeded = true)
    (hidentified : s.kind = .insert →
      ∀ outcome ∈ outcomes (executions trail), outcome.insertId.isSome) :
    ∃ tally, result = .ok tally := by
  cases result with
  | ok tally => exact ⟨tally, rfl⟩
  | error failure =>
      exfalso
      obtain ⟨row, applied, cause, rfl, hstops, -⟩ := h.incomplete
      have hexecutions := succeeded_of_mem_executions hfaultless
      cases hstops with
      | rejected refused _ =>
          obtain ⟨misfit, hmem, hmisfit⟩ := refused.misfit
          have hfirst :=
            head_rowShape?_of_binds (List.ne_nil_of_mem hmem) hbinds
          exact (check_eq_ok_iff hfirst).mp hcheck misfit hmem hmisfit
      | unprepared asked _ _ => cases hfaultless _ (List.mem_of_getLast? asked)
      | unbound at_row _ failed =>
          obtain ⟨arguments, hbound⟩ := hbinds _ (List.mem_of_getElem? at_row)
          rw [hbound] at failed
          cases failed
      | refused _ _ _ asked => cases hexecutions _ (List.mem_of_getLast? asked)
      | @withoutId _ _ outcome _ _ _ _ asked missing =>
          obtain ⟨hinsert, hnone, -⟩ := insertId_eq_error_iff.mp missing
          have hmem : outcome ∈ outcomes (executions trail) :=
            List.mem_filterMap.mpr ⟨_, List.mem_of_getLast? asked, rfl⟩
          have hid := hidentified hinsert outcome hmem
          rw [hnone] at hid
          cases hid

/-- A row by name has the arguments that its values have in a call of their
own. -/
theorem bindRow_of_bindNamed {dialect : Dialect} {kind : String}
    {rows : List Param} {named : List NamedParams} {bindings : List Binding}
    (hsingle : s.hasList = false)
    (hnamed : List.Forall₂ (NamedRow kind) rows named)
    (hbinds : named.mapM (s.bindNamed dialect) = .ok bindings) :
    rows.map s.bindRow = bindings.map fun binding => .ok binding.arguments := by
  induction hnamed generalizing bindings with
  | nil =>
      obtain rfl := Except.ok.inj hbinds
      rfl
  | cons hrow _ ih =>
      obtain ⟨binding, others, hbinding, hothers, rfl⟩ :=
        Fallible.mapM_cons_eq_ok_iff.mp hbinds
      rw [Statement.bindNamed_eq_bindRowNamed hsingle] at hbinding
      obtain ⟨arguments, harguments, rfl⟩ := Fallible.map_eq_ok_iff.mp hbinding
      rw [List.map_cons, List.map_cons, hrow.bindRow_eq, harguments, ih hothers]

/-- Rows by name that bind one by one, as single calls, run as a batch. They are
accepted exactly where each has as many entries as the statement has slots, as
it does if no name stands in two of them. What is accepted succeeds, with the
arguments that the rows have on their own, unless the backend reports a fault or
withholds an id. -/
theorem execute_accepts_named_rows (backend : Backend σ) {dialect : Dialect}
    {kind : String} {rows : List Param} {named : List NamedParams}
    {bindings : List Binding} (hsingle : s.hasList = false)
    (hnamed : List.Forall₂ (NamedRow kind) rows named)
    (hbinds : named.mapM (s.bindNamed dialect) = .ok bindings) :
    (check s rows = .ok () ↔
      ∀ values ∈ named, s.columns.length ≤ values.length) ∧
    ((s.columns.map Column.name).Nodup →
      ∀ values ∈ named, s.columns.length ≤ values.length) ∧
    (check s rows = .ok () → ∀ before : Session σ,
      ∃ trail, ((execute backend s rows).run before).2.events =
        before.events ++ trail ∧
        ((∀ event ∈ trail, event.succeeded = true) →
          (s.kind = .insert →
            ∀ outcome ∈ outcomes (executions trail), outcome.insertId.isSome) →
          (∃ tally, ((execute backend s rows).run before).1 = .ok tally) ∧
          (executions trail).map Executed.arguments =
            bindings.map Binding.arguments)) := by
  refine ⟨check_eq_ok_iff_of_named hnamed, ?_, ?_⟩
  · intro hdistinct values hmem
    obtain ⟨binding, hbinding⟩ :=
      Fallible.exists_of_mapM_eq_ok hbinds values hmem
    rw [Statement.bindNamed_eq_bindRowNamed hsingle] at hbinding
    obtain ⟨arguments, harguments, -⟩ := Fallible.map_eq_ok_iff.mp hbinding
    exact length_columns_le_of_bindRowNamed hdistinct harguments
  · intro hcheck before
    have hrows := bindRow_of_bindNamed hsingle hnamed hbinds
    have heach : ∀ row ∈ rows, ∃ arguments, s.bindRow row = .ok arguments := by
      intro row hmem
      have hbound : s.bindRow row ∈ rows.map s.bindRow :=
        List.mem_map_of_mem hmem
      rw [hrows] at hbound
      obtain ⟨binding, -, hbinding⟩ := List.mem_map.mp hbound
      exact ⟨binding.arguments, hbinding.symm⟩
    obtain ⟨trail, hextends, hran⟩ := execute_leaves backend s rows before
    refine ⟨trail, hextends.events, fun hfaultless hidentified => ?_⟩
    obtain ⟨tally, htally⟩ :=
      hran.exists_tally hcheck heach hfaultless hidentified
    rw [htally] at hran ⊢
    refine ⟨⟨tally, rfl⟩, ?_⟩
    have happlied := carries_of_applied hran.applied.1
    rw [List.filter_eq_self.mpr (succeeded_of_mem_executions hfaultless), hrows]
      at happlied
    have hinjective :
        Function.Injective (Except.ok : List Value →
          Except Cause (List Value)) :=
      fun _ _ => Except.ok.inj
    apply hinjective.list_map
    rw [List.map_map, List.map_map]
    exact happlied

/-- One of the rows has an entry too many, the other one gives the name
twice. -/
theorem numbering_accepts_name_in_two_slots :
    let s : Statement := ⟨"add", .insert, "insert into t values (:a, :a)", [],
      [⟨"a", 23, .single⟩, ⟨"a", 26, .single⟩], "insert into t values (?, ?)",
      "insert into t values ($1, $2)"⟩
    let named : List NamedParams :=
      [[("a", .scalar (.int 1)), ("b", .sequence [])],
        [("a", .scalar (.int 2)), ("a", .optional none)]]
    let rows : List Param :=
      [.record [("a", .scalar (.int 1)), ("b", .sequence [])],
        .optional
          (some (.record [("a", .scalar (.int 2)), ("a", .optional none)]))]
    let done := (execute numbering s rows).run (.start 4 ⟨false, none⟩)
    s.hasList = false ∧ List.Forall₂ (NamedRow "record") rows named ∧
      named.mapM (s.bindNamed .dollar) =
        .ok [⟨s.resolved, [.int 1, .int 1]⟩, ⟨s.resolved, [.null, .null]⟩] ∧
      (∃ tally, done.1 = .ok tally) ∧
      (executions done.2.events).map Executed.arguments =
        [[.int 1, .int 1], [.null, .null]] := by
  intro s named rows done
  have hnamed : List.Forall₂ (NamedRow "record") rows named :=
    .cons (.record rfl) (.cons (.record rfl) .nil)
  have hbinds : named.mapM (s.bindNamed .dollar) =
      .ok [⟨s.resolved, [.int 1, .int 1]⟩, ⟨s.resolved, [.null, .null]⟩] := by
        decide
  obtain ⟨haccepts, -, hruns⟩ :=
    execute_accepts_named_rows numbering rfl hnamed hbinds
  obtain ⟨trail, htrail, hdone⟩ :=
    hruns (haccepts.mpr (by decide)) (.start 4 ⟨false, none⟩)
  obtain rfl : done.2.events = trail := htrail
  exact ⟨rfl, hnamed, hbinds, hdone (by decide) fun _ => by decide⟩

/-- A name that stands in two slots: the one entry supplies both, but it counts
once. -/
theorem check_refuses_name_in_two_slots :
    let s : Statement :=
      ⟨"setA", .update, "UPDATE t SET a = :a WHERE a <> :a", [],
        [⟨"a", 18, .single⟩, ⟨"a", 31, .single⟩],
        "UPDATE t SET a = ? WHERE a <> ?", "UPDATE t SET a = ? WHERE a <> ?"⟩
    let values : NamedParams := [("a", .scalar (.int 1))]
    let row : Param := .mapping [(.scalar (.text "a"), .scalar (.int 1))]
    (Statement.raw s.id s.kind s.text []).normalize .question = .ok s ∧
      s.kind.isWrite = true ∧ s.hasList = false ∧
      NamedRow "mapping" row values ∧
      s.bindNamed .question values = .ok ⟨s.resolved, [.int 1, .int 1]⟩ ∧
      check s [row] = .error (0, .bind (.countMismatch 2 1)) ∧
      ((execute numbering s [row]).run (.start 4 ⟨false, none⟩)).1 =
        .error
          (.batch "setA" 0 .empty (.plain (.bind (.countMismatch 2 1)))) := by
  intro s values row
  have hnormal :
      (Statement.raw s.id s.kind s.text []).normalize .question = .ok s :=
    Statement.normalize_eq_ok_iff.mpr ⟨"UPDATE t SET a = ".toList.map .plain ++
      .slot ['a'] .single ::
        (" WHERE a <> ".toList.map .plain ++ [.slot ['a'] .single]),
      Template.items_eq_ok_iff.mpr ⟨by decide, by decide⟩, by decide⟩
  exact ⟨hnormal, rfl, rfl, .mapping rfl rfl, by decide, by decide, by decide⟩

end Batch

end NamedSql
