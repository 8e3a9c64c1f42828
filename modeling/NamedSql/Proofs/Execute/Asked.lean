import NamedSql.Proofs.Execute.Failing
import NamedSql.Proofs.Statement.Refining

/-!
Which names a call asks for. A fragment that is kept because its key is present
may use its key; all other text may use only the names that every caller gives.
Which fragments are kept is settled by the names that a caller supplies, before
any value is looked up, and every name that counts as supplied can be looked up
afterwards. So no call asks for a name that its caller did not give.
-/

namespace NamedSql

theorem NamedParams.exists_find?_of_mem {values : NamedParams} {name : String}
    (h : name ∈ values.map Prod.fst) : ∃ p, values.find? name = some p := by
  obtain ⟨entry, hmem, rfl⟩ := List.mem_map.mp h
  have hlookup : (values.reverse.lookup entry.1).isSome := by
    rw [List.lookup_isSome_iff]
    exact ⟨entry, List.mem_reverse.mpr hmem, BEq.rfl⟩
  exact Option.isSome_iff_exists.mp hlookup

theorem NamedParams.mem_of_find? {values : NamedParams} {name : String}
    {p : Param} (h : values.find? name = some p) :
    name ∈ values.map Prod.fst := by
  have hfound : (values.reverse.lookup name).isSome :=
    Option.isSome_iff_exists.mpr ⟨p, h⟩
  obtain ⟨entry, hmem, hname⟩ := List.lookup_isSome_iff.mp hfound
  exact List.mem_map.mpr
    ⟨entry, List.mem_reverse.mp hmem, (eq_of_beq hname).symm⟩

namespace Param

variable {column name : String} {p : Param}

/-- A value that does not convert is no missing name. -/
theorem toScalar_ne_missingKey :
    p.toScalar column ≠ .error (.bind (.missingKey name)) := by
  intro h
  fun_induction toScalar column p with
  | case4 inner hsingle ih => exact ih h
  | case1 | case2 | case3 | case5 | case6 | case7 | case8 => cases h

theorem toScalars_ne_missingKey :
    p.toScalars column ≠ .error (.bind (.missingKey name)) := by
  intro h
  rw [toScalars] at h
  split at h
  · cases h
  · obtain ⟨item, -, hitem⟩ := Fallible.exists_of_mapM_eq_error h
    exact toScalar_ne_missingKey hitem
  · cases hscalar : p.unwrapped.toScalar column with
    | ok value =>
        rw [hscalar] at h
        cases h
    | error cause =>
        rw [hscalar] at h
        obtain rfl := Except.error.inj h
        exact toScalar_ne_missingKey hscalar

end Param

namespace Statement

variable {dialect : Dialect} {s : Statement}

/-- A name is missing only where a column is looked up. -/
theorem exists_lookup_of_go_eq_missingKey
    {lookup : Nat → Column → Except Cause Param} {index : Nat}
    {columns : List Column} {arguments : List Value} {widened : Option String}
    {name : String}
    (h : bindColumns.go dialect s lookup index columns arguments widened =
      .error (.bind (.missingKey name))) :
    ∃ place, ∃ column ∈ columns,
      lookup place column = .error (.bind (.missingKey name)) := by
  obtain hlookup | ⟨p, column, hvalues⟩ | ⟨p, column, hvalue⟩ | hseveral :=
    exists_of_go_eq_error h
  · exact hlookup
  · exact absurd hvalues Param.toScalars_ne_missingKey
  · exact absurd hvalue Param.toScalar_ne_missingKey
  · cases hseveral

theorem bindNamed_ne_missingKey {values : NamedParams} {name : String}
    (hgiven : ∀ column ∈ s.columns, column.name ∈ values.map Prod.fst) :
    s.bindNamed dialect values ≠ .error (.bind (.missingKey name)) := by
  intro h
  obtain ⟨_, column, hmem, hlookup⟩ := exists_lookup_of_go_eq_missingKey h
  obtain ⟨p, hp⟩ := NamedParams.exists_find?_of_mem (hgiven column hmem)
  rw [lookupNamed, hp] at hlookup
  cases hlookup

end Statement

/-- The parameters supply values by name: the first one is a mapping with texts
for keys, or a record. -/
inductive ByName : List Param → NamedParams → Prop where
  | mapping {first : Param} {others : List Param}
      {entries : List (Param × Param)} {values : NamedParams}
      (holds : first.present = .ok (.mapping entries))
      (texts : Param.entriesByName entries = .ok values) :
      ByName (first :: others) values
  | record {first : Param} {others : List Param}
      {fields : List (String × Param)}
      (holds : first.present = .ok (.record fields)) :
      ByName (first :: others) fields

/-- What counts as supplied can be looked up: the names are known before the
statement is refined, and the values are bound afterwards. -/
theorem ByName.arranged {parameters : List Param} {values : NamedParams}
    (h : ByName parameters values) : ∃ names, names ⊆ values.map Prod.fst ∧
      presenceOf parameters = .ok (some names) ∧
      ∀ s mode, Arrangement.classify s parameters mode =
        .ok (.named values names) := by
  cases h with
  | mapping holds texts =>
      refine ⟨values.map Prod.fst, List.Subset.refl _, ?_, fun s mode => ?_⟩
      · simp only [presenceOf, holds, texts, bind, Except.bind]
      · simp only [Arrangement.classify, holds, texts, bind, Except.bind]
  | record holds =>
      refine ⟨Arrangement.recordPresence values, ?_, ?_, fun s mode => ?_⟩
      · exact List.map_subset Prod.fst (List.filter_subset_self _)
      · simp only [presenceOf, holds, bind, Except.bind]
      · simp only [Arrangement.classify, holds, bind, Except.bind]

/-- The names that a part may use, where every caller gives the names
`given`. -/
def Part.MayAsk (given : List String) (name : String) : Part → Prop
  | .clause key _ .present => name = key ∨ name ∈ given
  | .clause _ _ .absent => name ∈ given
  | .sql _ => name ∈ given

/-- A fragment is kept for its key only where the key was supplied. -/
theorem Part.MayAsk.supplied {part : Part} {given names : List String}
    {name : String} (hasks : part.MayAsk given name)
    (hstays : part.stays (Statement.wants (some names)) = true) :
    name ∈ given ∨ name ∈ names := by
  cases part with
  | sql text => exact .inl hasks
  | clause key fragment policy =>
      cases policy with
      | absent => exact .inl hasks
      | present =>
          have hkey : key ∈ names := List.contains_iff_mem.mp hstays
          rcases hasks with rfl | hgiven
          · exact .inr hkey
          · exact .inl hgiven

namespace Declaration

variable {dialect : Dialect} {d : Declaration} {normal : Part → Statement}

theorem exists_part_of_mem_placed {bytes : Nat} {parts : List Part}
    {column : Column} (h : column ∈ placed bytes (parts.map normal)) :
    ∃ part ∈ parts, ∃ own ∈ (normal part).columns, own.name = column.name := by
  induction parts generalizing bytes with
  | nil => cases h
  | cons part rest ih =>
      rw [List.map_cons, placed, List.mem_append] at h
      rcases h with hpart | hrest
      · obtain ⟨own, hown, rfl⟩ := List.mem_map.mp hpart
        exact ⟨part, List.mem_cons_self, own, hown, rfl⟩
      · obtain ⟨found, hmem, hfound⟩ := ih hrest
        exact ⟨found, List.mem_cons_of_mem part hmem, hfound⟩

/-- Settling a built statement for the names of a caller refines it, also where
it has no clause to settle. -/
theorem settled_eq_refine {used : Nat} {s : Statement} {parameters : List Param}
    {presence : Statement.Presence} (hbuild : (d.build dialect used).1 = .ok s)
    (hpresence : presenceOf parameters = .ok presence) :
    s.settled dialect parameters =
      (s.refine dialect presence).mapError Cause.statement := by
  rw [Statement.settled]
  split
  · rw [hpresence]
  · next hcondition =>
      have hnone : s.hasCondition = false := by simpa using hcondition
      have hassembled : (d.assembled used).hasCondition = false := by
        rw [← hnone, Statement.hasCondition, Statement.hasCondition,
          (assembled_of_build hbuild).clauses]
        rfl
      have hsql := (build_eq_ok_iff.mp ⟨s, hbuild⟩).1
      have hnormal : (d.assembled used).normalize dialect = .ok s := by
        rw [← hbuild, build_of_isSql hsql, hassembled, if_neg (by decide)]
      rw [Statement.refine, splice_of_unconditional hnone,
        Statement.normalize_of_normalize hnormal]
      rfl

/-- The columns of a refined statement are those of the parts that stay. -/
theorem columns_of_refine {used : Nat} {s refined : Statement}
    {presence : Statement.Presence} (hclean : ∀ part ∈ d.parts, part.Clean)
    (hnormal : ∀ part ∈ d.parts,
      (Statement.raw d.id d.kind part.text []).normalize dialect =
      .ok (normal part))
    (hparts : ∀ part ∈ d.parts.tail, Template.OpensApart part.text.toList)
    (hbuild : (d.build dialect used).1 = .ok s)
    (hrefine : s.refine dialect presence = .ok refined) :
    refined.columns =
      placed 0 ((d.parts.filter (Part.stays (Statement.wants presence))).map
        normal) := by
  have hlegible : Legible used d.parts := legible_of_opensApart hparts
  obtain ⟨template, htemplate, rfl⟩ :=
    ((assembled_of_build hbuild).refine_eq_ok_iff hclean hlegible).mp hrefine
  obtain ⟨found, hfound, -, hcolumns⟩ :=
    items_spliced_of_normal hnormal hparts (Statement.wants presence)
  obtain rfl : template = found := Except.ok.inj (htemplate.symm.trans hfound)
  exact hcolumns 0

end Declaration

namespace Session

variable {σ : Type} {backend : Backend σ} {dialect : Dialect} {s : Statement}

/-- A planned call fails by what was wrong with its plan, or by the driver. -/
theorem run_gives {planned : Except Cause Plan}
    (hsingle : ∀ plan, planned = .ok plan → ∃ settled binding,
      plan = .single settled binding) :
    Gives (run backend s planned) fun result => ∀ failure,
      result = .error failure →
      planned = .error failure.root ∨ ∃ e, failure.root = .driver e := by
  cases planned with
  | error cause =>
      refine .pure fun failure h => .inl ?_
      rw [← Except.error.inj h]
      rfl
  | ok plan =>
      obtain ⟨settled, binding, rfl⟩ := hsingle plan rfl
      refine (carryOut_single_leaves settled binding).gives.bind ?_
      rintro result ⟨_, -, hresult⟩
      refine .pure fun failure h => ?_
      cases result with
      | ok tally => cases h
      | error inner =>
          obtain ⟨e, rfl⟩ := hresult inner rfl
          exact .inr ⟨e, by rw [← Except.error.inj h]; rfl⟩

theorem openCursor_gives (naming : Naming) (parameters : List Param) :
    Gives (openCursor backend dialect naming s parameters) fun result =>
      ∀ failure, result = .error failure →
        Plan.query dialect s parameters = .error failure.root ∨
          ∃ e, failure.root = .driver e := by
  intro before failure h
  obtain ⟨_, -, hfailed⟩ := openCursor_leaves dialect naming s parameters before
  obtain ⟨cause, hplan, rfl⟩ | ⟨-, e, rfl⟩ := hfailed failure h
  · exact .inl hplan
  · exact .inr ⟨e, rfl⟩

end Session

namespace Plan

variable {dialect : Dialect} {s settled : Statement} {parameters : List Param}
  {values : NamedParams} {names : List String}

/-- What is planned for parameters by name is one binding by name. -/
theorem execution_of_named
    (harranged : ∀ s mode,
      Arrangement.classify s parameters mode = .ok (.named values names))
    (hsettled : s.settled dialect parameters = .ok settled) :
    execution dialect s parameters = if s.kind.isWrite then
      single settled <$> settled.bindNamed dialect values
    else .error (.statement .notExecutable) := by
  rw [execution]
  cases hwrite : s.kind.isWrite with
  | false => rfl
  | true =>
      simp only [hsettled, harranged, bind, Except.bind]
      rfl

theorem query_of_named
    (harranged : ∀ s mode,
      Arrangement.classify s parameters mode = .ok (.named values names))
    (hsettled : s.settled dialect parameters = .ok settled) :
    query dialect s parameters = if s.kind = .select then
      (fun binding => (settled, binding)) <$> settled.bindNamed dialect values
    else .error (.statement .notQueryable) := by
  rw [query]
  by_cases hselect : s.kind = .select
  · rw [if_pos hselect, hselect]
    simp only [hsettled, harranged, bind, Except.bind]
    cases hbinding : settled.bindNamed dialect values with
    | error cause => simp [Statement.bind, hbinding]
    | ok binding =>
        simp only [Statement.bind, hbinding]
        rfl
  · rw [if_neg hselect, if_pos (by simpa using hselect)]
    rfl

theorem single_of_named
    (harranged : ∀ s mode,
      Arrangement.classify s parameters mode = .ok (.named values names))
    (hsettled : s.settled dialect parameters = .ok settled) {plan : Plan}
    (h : execution dialect s parameters = .ok plan) :
    ∃ binding, plan = single settled binding := by
  rw [execution_of_named harranged hsettled] at h
  split at h
  · obtain ⟨binding, -, rfl⟩ := Fallible.map_eq_ok_iff.mp h
    exact ⟨binding, rfl⟩
  · cases h

/-- Planning by name misses a name only where binding does. -/
theorem bindNamed_of_missingKey {name : String}
    (harranged : ∀ s mode,
      Arrangement.classify s parameters mode = .ok (.named values names))
    (hsettled : s.settled dialect parameters = .ok settled)
    (h : execution dialect s parameters = .error (.bind (.missingKey name)) ∨
      query dialect s parameters = .error (.bind (.missingKey name))) :
    settled.bindNamed dialect values = .error (.bind (.missingKey name)) := by
  rw [execution_of_named harranged hsettled, query_of_named harranged hsettled]
    at h
  rcases h with h | h
  · split at h
    · exact Fallible.map_eq_error_iff.mp h
    · cases h
  · split at h
    · exact Fallible.map_eq_error_iff.mp h
    · cases h

end Plan

namespace Declaration

variable {dialect : Dialect} {d : Declaration} {normal : Part → Statement}
  {given : List String}

/-- Every name that a refined statement asks for is one that its caller
supplies. -/
theorem supplied_of_refine {used : Nat} {s refined : Statement}
    {names : List String} {values : NamedParams}
    (hclean : ∀ part ∈ d.parts, part.Clean) (hnormal : ∀ part ∈ d.parts,
      (Statement.raw d.id d.kind part.text []).normalize dialect =
      .ok (normal part))
    (hparts : ∀ part ∈ d.parts.tail, Template.OpensApart part.text.toList)
    (hasks : ∀ part ∈ d.parts, ∀ column ∈ (normal part).columns,
      part.MayAsk given column.name)
    (hbuild : (d.build dialect used).1 = .ok s)
    (hrefine : s.refine dialect (some names) = .ok refined)
    (hgiven : given ⊆ values.map Prod.fst)
    (hnames : names ⊆ values.map Prod.fst) :
    ∀ column ∈ refined.columns, column.name ∈ values.map Prod.fst := by
  intro column hcolumn
  rw [columns_of_refine hclean hnormal hparts hbuild hrefine] at hcolumn
  obtain ⟨part, hpart, own, hown, hname⟩ := exists_part_of_mem_placed hcolumn
  obtain ⟨hmem, hstays⟩ := List.mem_filter.mp hpart
  rw [← hname]
  rcases (hasks part hmem own hown).supplied hstays with hbase | hsupplied
  · exact hgiven hbase
  · exact hnames hsupplied

/-- No call asks for a name that its caller did not give. Literal texts and
fragments for an absent key use the names in `given` only, and a fragment for a
present key its key as well; then no call by name that supplies the names in
`given`, with whatever values, fails for a missing name. -/
theorem call_asks_for_given_names (hsql : d.kind.isSql = true)
    (hclean : ∀ part ∈ d.parts, part.Clean)
    (hnormal : ∀ part ∈ d.parts,
      (Statement.raw d.id d.kind part.text []).normalize dialect =
      .ok (normal part))
    (hparts : ∀ part ∈ d.parts.tail, Template.OpensBlank part.text.toList)
    (hasks : ∀ part ∈ d.parts, ∀ column ∈ (normal part).columns,
      part.MayAsk given column.name)
    (used : Nat) :
    ∃ s, (d.build dialect used).1 = .ok s ∧
      ∀ {σ : Type} (backend : Backend σ) (before : Session
        σ) (parameters : List Param) (values : NamedParams),
        ByName parameters values → given ⊆ values.map Prod.fst →
      (∀ failure,
        ((Session.execute backend dialect s parameters).run before).1 =
          .error failure →
        ∀ name, failure.root ≠ .bind (.missingKey name)) ∧
      ∀ naming failure,
        ((Session.openCursor backend dialect naming s parameters).run
            before).1 = .error failure →
        ∀ name, failure.root ≠ .bind (.missingKey name) := by
  have hapart : ∀ part ∈ d.parts.tail, Template.OpensApart part.text.toList :=
    fun part hmem => (hparts part hmem).opensApart
  have hlegible : Legible used d.parts := legible_of_opensApart hapart
  have hreads (wanted : String → Policy → Bool) :
      Template.fault (spliced wanted d.parts).toList = none := by
    obtain ⟨template, htemplate, -⟩ :=
      items_spliced_of_normal hnormal hapart wanted
    exact Template.fault_eq_none_iff.mpr ⟨template, htemplate⟩
  obtain ⟨s, hbuild⟩ :=
    (exists_build_iff dialect hclean hlegible).mpr
      ⟨hsql, fun all => hreads fun _ _ => all⟩
  refine ⟨s, hbuild, ?_⟩
  intro σ backend before parameters values hnamed hgiven
  obtain ⟨names, hnames, hpresence, harranged⟩ := hnamed.arranged
  obtain ⟨refined, hrefine⟩ :=
    ((assembled_of_build hbuild).exists_refine_iff hclean hlegible
      (some names)).mpr (hreads _)
  have hsettled : s.settled dialect parameters = .ok refined := by
    rw [settled_eq_refine hbuild hpresence, hrefine]
    rfl
  have hbound (name : String) :
      refined.bindNamed dialect values ≠ .error (.bind (.missingKey name)) :=
    Statement.bindNamed_ne_missingKey
      (supplied_of_refine hclean hnormal hapart hasks hbuild hrefine
        hgiven hnames)
  constructor
  · intro failure hfailure name hroot
    have hsingle (plan : Plan)
        (hplan : Plan.execution dialect s parameters = .ok plan) :
        ∃ settled binding, plan = .single settled binding :=
      ⟨refined, Plan.single_of_named harranged hsettled hplan⟩
    rcases Session.run_gives hsingle before failure
      hfailure with hcause | ⟨e, he⟩
    · rw [hroot] at hcause
      exact hbound name
        (Plan.bindNamed_of_missingKey harranged hsettled (.inl hcause))
    · cases he.symm.trans hroot
  · intro naming failure hfailure name hroot
    rcases Session.openCursor_gives naming parameters before failure
        hfailure with
      hcause | ⟨e, he⟩
    · rw [hroot] at hcause
      exact hbound name
        (Plan.bindNamed_of_missingKey harranged hsettled (.inr hcause))
    · cases he.symm.trans hroot

/-- A record whose only given name holds null, and whose key holds nothing: the
fragment for the key is dropped, and the one for the absent key is kept. -/
theorem call_asks_for_given_names_of_null_fields :
    let d : Declaration := ⟨"q", .select, [.sql "SELECT 'é' WHERE a = :a",
      .clause "k" " AND k IN (:k[]) AND a > :a" .present,
      .clause "z" " AND z = :a" .absent]⟩
    let normal : Part → Statement
      | .clause _ fragment .present => ⟨"q", .select, fragment, [],
          [⟨"k", 12, .list⟩, ⟨"a", 23, .single⟩], " AND k IN (?) AND a > ?",
          " AND k IN ($1) AND a > $2"⟩
      | .clause _ fragment .absent =>
          ⟨"q", .select, fragment, [], [⟨"a", 10, .single⟩], " AND z = ?",
            " AND z = $1"⟩
      | .sql text =>
          ⟨"q", .select, text, [], [⟨"a", 23, .single⟩],
            "SELECT 'é' WHERE a = ?", "SELECT 'é' WHERE a = $1"⟩
    let script : Backend.Script :=
      ⟨[], [⟨.query, 1, .badConnection⟩], [], false, 1⟩
    let parameters : List Param :=
      [.record [("a", .scalar .null), ("k", .optional none)]]
    (∀ part ∈ d.parts,
      (Statement.raw d.id d.kind part.text []).normalize .dollar =
        .ok (normal part)) ∧
    (∀ part ∈ d.parts, ∀ column ∈ (normal part).columns,
      part.MayAsk ["a"] column.name) ∧
    ∃ s, (d.build .dollar 6).1 = .ok s ∧ ∀ failure,
      ((Session.openCursor script.backend .dollar .exact s parameters).run
        (.start script.start ⟨false, none⟩)).1 = .error failure →
      ∀ name, failure.root ≠ .bind (.missingKey name) := by
  intro d normal script parameters
  have hnormal : ∀ part ∈ d.parts,
      (Statement.raw d.id d.kind part.text []).normalize .dollar =
        .ok (normal part) := by
    rw [List.forall_mem_cons, List.forall_mem_cons, List.forall_mem_singleton]
    refine ⟨Statement.normalize_eq_ok_iff.mpr ⟨"SELECT ".toList.map .plain ++
        .quoted '\'' ['é'] ::
          (" WHERE a = ".toList.map .plain ++ [.slot ['a'] .single]), ?_,
          by decide⟩,
      Statement.normalize_eq_ok_iff.mpr ⟨" AND k IN (".toList.map .plain ++
        .slot ['k'] .list ::
          (") AND a > ".toList.map .plain ++ [.slot ['a'] .single]), ?_,
          by decide⟩,
      Statement.normalize_eq_ok_iff.mpr ⟨" AND z = ".toList.map .plain ++
        [.slot ['a'] .single], ?_, by decide⟩⟩
    · exact Template.items_eq_ok_iff.mpr ⟨by decide, by decide⟩
    · exact Template.items_eq_ok_iff.mpr ⟨by decide, by decide⟩
    · exact Template.items_eq_ok_iff.mpr ⟨by decide, by decide⟩
  have hasks : ∀ part ∈ d.parts, ∀ column ∈ (normal part).columns,
      part.MayAsk ["a"] column.name := by
    simp [d, normal, Part.MayAsk]
  obtain ⟨s, hbuild, hcalls⟩ := call_asks_for_given_names rfl
    (by decide : ∀ part ∈ d.parts, part.Clean) hnormal (by decide) hasks 6
  have hnamed :
      ByName parameters [("a", .scalar .null), ("k", .optional none)] :=
        .record rfl
  have hqueries :=
    (hcalls script.backend (.start script.start ⟨false, none⟩) parameters
      _ hnamed
      (by simp)).2
  exact ⟨hnormal, hasks, s, hbuild, hqueries .exact⟩

end Declaration

end NamedSql
