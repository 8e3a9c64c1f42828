import NamedSql.Proofs.Execute.Asked

/-!
The names that parameters supply. They are read off the parameters before a
statement is refined, and again when the parameters are arranged for the refined
statement. Both readings come to the same: none for parameters that are not by
name, all names that can be looked up for a mapping, and some of these for a
record, whose empty fields do not count.
-/

namespace NamedSql

theorem NamedParams.mem_iff_exists_lookup {values : NamedParams}
    {column : Column} :
    column.name ∈ values.map Prod.fst ↔
      ∃ p, Statement.lookupNamed values column = .ok p := by
  rw [Statement.lookupNamed.eq_def]
  constructor
  · intro hmem
    obtain ⟨p, hp⟩ := NamedParams.exists_find?_of_mem hmem
    exact ⟨p, by rw [hp]⟩
  · rintro ⟨p, hp⟩
    split at hp
    · next hfound => exact NamedParams.mem_of_find? hfound
    · cases hp

namespace Arrangement

/-- Which names an arrangement of parameters tells. A mapping tells all that can
be looked up in it, a record only such, and nothing else tells any. -/
structure Tells (parameters : List Param) (arrangement : Arrangement) :
    Prop where
  mapping : ∀ first entries, parameters.head? = some first →
    first.present = .ok (.mapping entries) →
    ∃ values names, Param.entriesByName entries = .ok values ∧
      arrangement = .named values names ∧
      ∀ column, column.name ∈ names ↔
        ∃ p, Statement.lookupNamed values column = .ok p
  record : ∀ first fields, parameters.head? = some first →
    first.present = .ok (.record fields) →
    ∃ names, arrangement = .named fields names ∧
      ∀ column, column.name ∈ names → ∃ p,
        Statement.lookupNamed fields column = .ok p
  unnamed : (∀ values, ¬ByName parameters values) → arrangement.presence = none

variable {s : Statement} {mode : CallMode} {parameters : List Param}
  {arrangement : Arrangement}

theorem presence_of_ofList {items : List Param}
    (h : ofList s parameters items mode = .ok arrangement) :
    arrangement.presence = none := by
  rw [ofList.eq_def] at h
  split at h
  · obtain rfl := Except.ok.inj h
    rfl
  · split at h
    · obtain rfl := Except.ok.inj h
      rfl
    · cases h
    · obtain rfl := Except.ok.inj h
      rfl

/-- Every name of a record that counts as supplied is one of its names. -/
theorem exists_lookup_of_mem_recordPresence {fields : NamedParams}
    {column : Column} (h : column.name ∈ recordPresence fields) :
    ∃ p, Statement.lookupNamed fields column = .ok p := by
  have hsubset : recordPresence fields ⊆ fields.map Prod.fst :=
    List.map_subset Prod.fst (List.filter_subset_self _)
  exact NamedParams.mem_iff_exists_lookup.mp (hsubset h)

theorem tells_of_unnamed {first p : Param} {rest : List Param}
    (hpresent : first.present = .ok p)
    (hmapping : ∀ entries, p ≠ .mapping entries)
    (hrecord : ∀ fields, p ≠ .record fields)
    (hnone : arrangement.presence = none) :
    arrangement.Tells (first :: rest) where
  mapping := by
    intro found entries hfound hentries
    obtain rfl := Option.some.inj hfound
    exact absurd (Except.ok.inj (hpresent.symm.trans hentries))
      (hmapping entries)
  record := by
    intro found fields hfound hfields
    obtain rfl := Option.some.inj hfound
    exact absurd (Except.ok.inj (hpresent.symm.trans hfields)) (hrecord fields)
  unnamed := fun _ => hnone

theorem tells_of_mapping {first : Param} {rest : List Param}
    {entries : List (Param × Param)} {values : NamedParams}
    (hpresent : first.present = .ok (.mapping entries))
    (htexts : Param.entriesByName entries = .ok values) :
    (named values (values.map Prod.fst)).Tells (first :: rest) where
  mapping := by
    intro found others hfound hothers
    obtain rfl := Option.some.inj hfound
    obtain rfl :=
      Param.mapping.inj (Except.ok.inj (hpresent.symm.trans hothers))
    exact ⟨values, _, htexts, rfl,
      fun column => NamedParams.mem_iff_exists_lookup⟩
  record := by
    intro found fields hfound hfields
    obtain rfl := Option.some.inj hfound
    cases hpresent.symm.trans hfields
  unnamed := fun hnone => absurd (.mapping hpresent htexts) (hnone values)

theorem tells_of_record {first : Param} {rest : List Param}
    {fields : NamedParams} (hpresent : first.present = .ok (.record fields)) :
    (named fields (recordPresence fields)).Tells (first :: rest) where
  mapping := by
    intro found entries hfound hentries
    obtain rfl := Option.some.inj hfound
    cases hpresent.symm.trans hentries
  record := by
    intro found others hfound hothers
    obtain rfl := Option.some.inj hfound
    obtain rfl := Param.record.inj (Except.ok.inj (hpresent.symm.trans hothers))
    exact ⟨_, rfl, fun column => exists_lookup_of_mem_recordPresence⟩
  unnamed := fun hnone => absurd (.record hpresent) (hnone fields)

/-- An arrangement has the presence that was known before, and it tells the
names that it should. -/
theorem presenceOf_of_classify
    (h : classify s parameters mode = .ok arrangement) :
    presenceOf parameters = .ok arrangement.presence ∧
      arrangement.Tells parameters := by
  cases parameters with
  | nil =>
      obtain rfl := Except.ok.inj h
      refine ⟨rfl, ?_, ?_, fun _ => rfl⟩
      · intro first entries hfirst
        cases hfirst
      · intro first fields hfirst
        cases hfirst
  | cons first rest =>
      obtain ⟨p, hpresent, h⟩ := Fallible.bind_eq_ok_iff.mp h
      rw [presenceOf, hpresent]
      cases p with
      | erased type | optional inner => cases h
      | scalar value =>
          obtain rfl := Except.ok.inj h
          exact ⟨rfl, tells_of_unnamed hpresent (by simp) (by simp) rfl⟩
      | sequence items =>
          have hnone := presence_of_ofList h
          rw [hnone]
          exact ⟨rfl, tells_of_unnamed hpresent (by simp) (by simp) hnone⟩
      | mapping entries =>
          obtain ⟨values, htexts, h⟩ := Fallible.bind_eq_ok_iff.mp h
          obtain rfl := Except.ok.inj h
          refine ⟨?_, tells_of_mapping hpresent htexts⟩
          simp only [htexts, bind, Except.bind]
          rfl
      | record fields =>
          obtain rfl := Except.ok.inj h
          exact ⟨rfl, tells_of_record hpresent⟩

/-- What keeps the names from being known keeps the parameters from being
arranged. -/
theorem classify_of_presenceOf_error {e : ParamError}
    (h : presenceOf parameters = .error e) :
    classify s parameters mode = .error e := by
  cases parameters with
  | nil => cases h
  | cons first rest =>
      rw [classify]
      rcases Fallible.bind_eq_error_iff.mp h with hpresent | ⟨p, hpresent, h⟩
      · rw [hpresent]
        rfl
      · rw [hpresent]
        cases p with
        | scalar | sequence | optional | erased | record => cases h
        | mapping entries =>
            rcases Fallible.bind_eq_error_iff.mp h with htexts | ⟨values, -, h⟩
            · simp only [htexts, bind, Except.bind]
            · cases h

/-- Refining and binding go by the same names, whatever the statement. If the
parameters can be arranged, the names that settle a statement are those that the
arrangement tells, and if they cannot be known, the parameters cannot be
arranged, for the same reason. -/
theorem arranged_with_known_presence (s : Statement) (parameters : List Param)
    (mode : CallMode) :
    (∀ arrangement, classify s parameters mode = .ok arrangement →
      presenceOf parameters = .ok arrangement.presence ∧
        arrangement.Tells parameters ∧
      ∀ (dialect : Dialect) (given : Statement), given.hasCondition = true →
        given.settled dialect parameters =
          (given.refine dialect arrangement.presence).mapError
            Cause.statement) ∧
    ∀ e, presenceOf parameters = .error e →
      classify s parameters mode = .error e := by
  refine ⟨?_, fun e h => classify_of_presenceOf_error h⟩
  intro arrangement h
  obtain ⟨hpresence, htells⟩ := presenceOf_of_classify h
  refine ⟨hpresence, htells, ?_⟩
  intro dialect given hcondition
  rw [Statement.settled, if_pos hcondition, hpresence]

/-- Of the fields that hold nothing none is told, though all can be looked
up. -/
theorem arranged_with_known_presence_of_empty_fields :
    let s : Statement := ⟨"q", .select, "SELECT * FROM t WHERE b IN (:b[])", [],
      [⟨"b", 29, .list⟩], "SELECT * FROM t WHERE b IN (?)",
      "SELECT * FROM t WHERE b IN ($1)"⟩
    let fields : NamedParams :=
      [("a", .scalar .null), ("b", .scalar (.int 1)), ("b", .sequence []),
        ("k", .optional none)]
    let parameters : List Param :=
      [.optional (some (.record fields)), .erased "dyn Any"]
    let given : Statement :=
      ⟨"q", .select, "SELECT * FROM t WHERE b IN (:b[])" ++ clauseToken 4,
        [⟨clauseToken 4, "k", " AND k = :k", .absent⟩], [], "", ""⟩
    let told : List String := ["b", "b"]
    classify s parameters .query = .ok (.named fields told) ∧
      presenceOf parameters = .ok (some told) ∧
      (∀ column, column.name ∈ told → ∃ p,
        Statement.lookupNamed fields column = .ok p) ∧
      given.hasCondition = true ∧ given.settled .dollar parameters =
        (given.refine .dollar (some told)).mapError Cause.statement := by
  intro s fields parameters given told
  have harranged :
      classify s parameters .query = .ok (.named fields told) := rfl
  obtain ⟨hpresence, htells, hsettled⟩ :=
    (arranged_with_known_presence s parameters .query).1 _ harranged
  obtain ⟨names, hnames, hknown⟩ := htells.record _ fields rfl rfl
  obtain rfl : told = names := (Arrangement.named.inj hnames).2
  exact ⟨harranged, hpresence, hknown, rfl, hsettled .dollar given rfl⟩

end Arrangement

end NamedSql
