import Mathlib.Data.List.Nodup
import NamedSql.Backend.Scripted
import NamedSql.Mapper
import NamedSql.Proofs.Statement.Splicing

/-!
What a registry holds. Of the statements whose ids fold to the same text the
first one is accepted, and every spelling of its id finds it. A mapper is built
with all of its declarations or with none: the first declaration that is not
built, or whose id is taken, fails it.
-/

namespace NamedSql

namespace Registry

/-- The registry of statements that were accepted in this order. -/
def Holds (registry : Registry) (statements : List Statement) : Prop :=
  registry.entries = statements.map fun s => (fold s.id, s)

/-- Calls to register, each with its outcome. -/
abbrev History := List (Statement × Except StatementError Unit)

def registerAll (registry : Registry) : List Statement → History × Registry
  | [] => ([], registry)
  | s :: rest =>
      let (outcome, registry) := registry.register s
      let (later, registry) := registry.registerAll rest
      ((s, outcome) :: later, registry)

/-- The statements whose registration has succeeded. -/
def accepted (history : History) : List Statement :=
  history.filterMap fun (s, outcome) => outcome.toOption.map fun _ => s

variable {registry : Registry} {statements : List Statement} {s : Statement}

theorem holds_empty : Holds empty [] :=
  rfl

theorem Holds.size_eq (h : registry.Holds statements) :
    registry.size = statements.length := by
  rw [size, h, List.length_map]

theorem Holds.get?_eq (h : registry.Holds statements) (id : String) :
    registry.get? id = statements.find? fun s => fold s.id = fold id := by
  rw [get?, h]
  clear h
  induction statements with
  | nil => rfl
  | cons s rest ih =>
      rw [List.map_cons, List.lookup_cons, List.find?_cons, ih]
      by_cases hsame : fold s.id = fold id
      · rw [decide_eq_true hsame, hsame, beq_self_eq_true]
      · rw [decide_eq_false hsame, beq_false_of_ne (Ne.symm hsame)]

theorem Holds.taken_iff (h : registry.Holds statements) (id : String) :
    (registry.get? id).isSome ↔ ∃ t ∈ statements, fold t.id = fold id := by
  rw [h.get?_eq, List.find?_isSome]
  simp

/-- A statement whose folded id is taken is refused, and nothing changes. -/
theorem Holds.register_of_taken (h : registry.Holds statements)
    (htaken : ∃ t ∈ statements, fold t.id = fold s.id) :
    registry.register s = (.error (.duplicate (fold s.id)), registry) := by
  rw [register, if_pos ((h.taken_iff s.id).mpr htaken)]

theorem Holds.register_of_free (h : registry.Holds statements)
    (hfree : ¬∃ t ∈ statements, fold t.id = fold s.id) :
    ∃ extended : Registry, registry.register s = (.ok (), extended) ∧
      extended.Holds (statements ++ [s]) := by
  refine ⟨⟨registry.entries ++ [(fold s.id, s)]⟩, ?_, ?_⟩
  · rw [register, if_neg (mt (h.taken_iff s.id).mp hfree)]
  · rw [Holds, h, List.map_append]
    rfl

theorem Holds.register_eq_ok_iff (h : registry.Holds statements) :
    (registry.register s).1 = .ok () ↔
      ¬∃ t ∈ statements, fold t.id = fold s.id := by
  by_cases htaken : ∃ t ∈ statements, fold t.id = fold s.id
  · rw [h.register_of_taken htaken]
    exact ⟨nofun, fun hfree => absurd htaken hfree⟩
  · obtain ⟨extended, hregister, -⟩ := h.register_of_free htaken
    rw [hregister]
    exact ⟨fun _ => htaken, fun _ => rfl⟩

/-- A registration fails as a duplicate only, and then changes no look-up. -/
theorem Holds.register_of_failed (h : registry.Holds statements)
    (hfailed : (registry.register s).1 ≠ .ok ()) :
    (registry.register s).1 = .error (.duplicate (fold s.id)) ∧
      ∀ id, (registry.register s).2.get? id = registry.get? id := by
  have htaken : ∃ t ∈ statements, fold t.id = fold s.id :=
    not_not.mp (mt h.register_eq_ok_iff.mpr hfailed)
  rw [h.register_of_taken htaken]
  exact ⟨rfl, fun _ => rfl⟩

/-- After any calls a registry holds the accepted statements behind those it has
held before. -/
theorem Holds.registerAll (h : registry.Holds statements)
    (calls : List Statement) :
    (registry.registerAll calls).2.Holds
      (statements ++ accepted (registry.registerAll calls).1) := by
  induction calls generalizing registry statements with
  | nil => simpa [Registry.registerAll, accepted] using h
  | cons s rest ih =>
      rw [Registry.registerAll]
      by_cases htaken : ∃ t ∈ statements, fold t.id = fold s.id
      · rw [h.register_of_taken htaken]
        exact ih h
      · obtain ⟨extended, hregister, hextended⟩ := h.register_of_free htaken
        rw [hregister]
        have hrest := ih hextended
        rw [List.append_assoc] at hrest
        exact hrest

end Registry

namespace Declaration

theorem id_of_build {dialect : Dialect} {used : Nat} {d : Declaration}
    {s : Statement} (h : (d.build dialect used).1 = .ok s) : s.id = d.id := by
  have hsql := (build_eq_ok_iff.mp ⟨s, h⟩).1
  rw [build_of_isSql hsql] at h
  split at h
  · obtain ⟨_, -, h⟩ := Fallible.bind_eq_ok_iff.mp h
    obtain ⟨_, -, h⟩ := Fallible.bind_eq_ok_iff.mp h
    cases h
    rfl
  · obtain ⟨template, -, rfl⟩ := Statement.normalize_eq_ok_iff.mp h
    rfl

/-- What building declarations one after the other comes to, each with the token
numbers that the ones before it have left. -/
def buildAll (dialect : Dialect) : Nat → List Declaration →
    List (Declaration × Except StatementError Statement)
  | _, [] => []
  | used, d :: rest =>
      let (built, used) := d.build dialect used
      (d, built) :: buildAll dialect used rest

end Declaration

namespace Catalog

open Registry

/-- Declarations that were built, with their statements. -/
def succeeded (built : List (Declaration × Statement)) :
    List (Declaration × Except StatementError Statement) :=
  built.map fun (d, s) => (d, .ok s)

/-- How declarations are registered after they were built: all of them, or those
in front of the first one that was not built or whose id is taken. -/
inductive Registers
    (declared : List (Declaration × Except StatementError Statement)) :
    Except StatementError Registry → Prop
  | all {built : List (Declaration × Statement)} {registry : Registry}
      (hdeclared : declared = succeeded built)
      (hdistinct : (built.map fun (d, _) => fold d.id).Nodup)
      (hsize : registry.size = built.length)
      (hfound : ∀ d s, (d, s) ∈ built → registry.get? d.id = some s) :
      Registers declared (.ok registry)
  | unbuilt {built : List (Declaration × Statement)} {d : Declaration}
      {e : StatementError}
      {rest : List (Declaration × Except StatementError Statement)}
      (hdeclared : declared = succeeded built ++ (d, .error e) :: rest)
      (hdistinct : (built.map fun (d, _) => fold d.id).Nodup) :
      Registers declared (.error e)
  | taken {built : List (Declaration × Statement)} {d : Declaration}
      {s : Statement}
      {rest : List (Declaration × Except StatementError Statement)}
      (hdeclared : declared = succeeded built ++ (d, .ok s) :: rest)
      (hdistinct : (built.map fun (d, _) => fold d.id).Nodup)
      (htaken : ∃ earlier t,
        (earlier, t) ∈ built ∧ fold earlier.id = fold d.id) :
      Registers declared (.error (.duplicate (fold d.id)))

/-- The statements of declarations, each under the id of its own, are in the
registry. -/
structure Declared (catalog : Catalog)
    (built : List (Declaration × Statement)) : Prop where
  holds : catalog.registry.Holds (built.map Prod.snd)
  ids : ∀ d s, (d, s) ∈ built → s.id = d.id
  distinct : (built.map fun (d, _) => fold d.id).Nodup

theorem Declared.empty (dialect : Dialect) :
    Declared (Catalog.empty dialect) [] :=
  ⟨holds_empty, nofun, List.nodup_nil⟩

variable {catalog : Catalog} {built : List (Declaration × Statement)}
  {d : Declaration} {s : Statement}

/-- The id of a declaration is taken as its statement's is. -/
theorem Declared.taken_iff (h : Declared catalog built) (id : String) :
    (∃ t ∈ built.map Prod.snd, fold t.id = fold id) ↔
      ∃ earlier t, (earlier, t) ∈ built ∧ fold earlier.id = fold id := by
  constructor
  · rintro ⟨t, hmem, hsame⟩
    obtain ⟨⟨earlier, t⟩, hbuilt, rfl⟩ := List.mem_map.mp hmem
    exact ⟨earlier, t, hbuilt, h.ids earlier t hbuilt ▸ hsame⟩
  · rintro ⟨earlier, t, hbuilt, hsame⟩
    exact ⟨t, List.mem_map_of_mem hbuilt, (h.ids earlier t hbuilt).symm ▸ hsame⟩

theorem Declared.get?_eq (h : Declared catalog built) (hmem : (d, s) ∈ built) :
    catalog.registry.get? d.id = some s := by
  have hfound : (catalog.registry.get? d.id).isSome :=
    (h.holds.taken_iff d.id).mpr ((h.taken_iff d.id).mpr ⟨d, s, hmem, rfl⟩)
  obtain ⟨t, ht⟩ := Option.isSome_iff_exists.mp hfound
  have hfind := (h.holds.get?_eq d.id).symm.trans ht
  obtain ⟨⟨earlier, t⟩, hbuilt, rfl⟩ :=
    List.mem_map.mp (List.mem_of_find?_eq_some hfind)
  have hsame : fold earlier.id = fold d.id := by
    rw [← h.ids earlier t hbuilt]
    simpa using List.find?_some hfind
  cases List.inj_on_of_nodup_map h.distinct hbuilt hmem hsame
  exact ht

theorem declare_of_unbuilt {e : StatementError} {used : Nat}
    (hbuild : d.build catalog.dialect catalog.used = (.error e, used)) :
    (catalog.declare d).1 = .error e := by
  rw [declare, hbuild]

theorem Declared.declare_of_taken (h : Declared catalog built) {used : Nat}
    (hbuild : d.build catalog.dialect catalog.used = (.ok s, used))
    (htaken : ∃ earlier t, (earlier, t) ∈ built ∧ fold earlier.id = fold d.id) :
    (catalog.declare d).1 = .error (.duplicate (fold d.id)) := by
  have hid : s.id = d.id := Declaration.id_of_build (by rw [hbuild])
  rw [← hid] at htaken ⊢
  rw [declare, hbuild]
  simp only [h.holds.register_of_taken ((h.taken_iff s.id).mpr htaken)]

theorem Declared.declare_of_free (h : Declared catalog built) {used : Nat}
    (hbuild : d.build catalog.dialect catalog.used = (.ok s, used))
    (hfree : ¬∃ earlier t, (earlier, t) ∈ built ∧ fold earlier.id = fold d.id) :
    ∃ registry, catalog.declare d = (.ok (), { catalog with used, registry }) ∧
      Declared { catalog with used, registry } (built ++ [(d, s)]) := by
  have hid : s.id = d.id := Declaration.id_of_build (by rw [hbuild])
  obtain ⟨registry, hregister, hholds⟩ :=
    h.holds.register_of_free (mt (h.taken_iff s.id).mp (by rwa [hid]))
  refine ⟨registry, by rw [declare, hbuild]; simp only [hregister], ?_⟩
  constructor
  case holds => rwa [List.map_append]
  case ids =>
    intro earlier t hmem
    rcases List.mem_append.mp hmem with hmem | hmem
    · exact h.ids earlier t hmem
    · cases List.mem_singleton.mp hmem
      exact hid
  case distinct =>
    rw [List.map_append, List.nodup_append]
    refine ⟨h.distinct, List.nodup_singleton _, ?_⟩
    intro folded hmem other hother hsame
    obtain ⟨⟨earlier, t⟩, hbuilt, rfl⟩ := List.mem_map.mp hmem
    exact hfree ⟨earlier, t, hbuilt, hsame.trans (List.mem_singleton.mp hother)⟩

theorem declareAll_of_failed {e : StatementError}
    (h : (catalog.declare d).1 = .error e) (rest : List Declaration) :
    catalog.declareAll (d :: rest) = .error e := by
  rw [declareAll]
  cases hresult : catalog.declare d with
  | mk outcome left =>
  rw [hresult] at h
  obtain rfl : outcome = .error e := h
  rfl

/-- Declaring registers what the ones before have left to register. -/
theorem Declared.declareAll (h : Declared catalog built)
    (declarations : List Declaration) :
    Registers (succeeded built ++
        Declaration.buildAll catalog.dialect catalog.used declarations)
      ((catalog.declareAll declarations).map Catalog.registry) := by
  induction declarations generalizing catalog built with
  | nil =>
      refine .all (List.append_nil _) h.distinct ?_ fun d s hmem =>
        h.get?_eq hmem
      rw [h.holds.size_eq, List.length_map]
  | cons d rest ih =>
      rw [Declaration.buildAll]
      cases hbuild : d.build catalog.dialect catalog.used with
      | mk outcome used =>
      cases outcome with
      | error e =>
          rw [declareAll_of_failed (declare_of_unbuilt hbuild)]
          exact .unbuilt rfl h.distinct
      | ok s =>
          by_cases htaken :
              ∃ earlier t, (earlier, t) ∈ built ∧ fold earlier.id = fold d.id
          · rw [declareAll_of_failed (h.declare_of_taken hbuild htaken)]
            exact .taken rfl h.distinct htaken
          · obtain ⟨registry, hdeclare, hnext⟩ :=
              h.declare_of_free hbuild htaken
            rw [Catalog.declareAll, hdeclare]
            have hrest := ih hnext
            rw [succeeded, List.map_append, List.append_assoc] at hrest
            exact hrest

end Catalog

/-- A mapper with a backend and a dialect is built as its declarations are
registered. -/
theorem MapperDraft.build_eq_of_chosen {σ : Type} (draft : MapperDraft σ)
    {backend : Backend σ} {dialect : Dialect}
    (hbackend : draft.backend = some backend)
    (hdialect : draft.dialect = some dialect ∨
      draft.dialect = none ∧
      Dialect.ofDriver draft.settings.driver = .ok dialect)
    (hasRuntime : Bool) :
    draft.build hasRuntime =
      match ((Catalog.empty dialect).declareAll draft.declarations).map
        Catalog.registry with
      | .error e => .error (.statement e)
      | .ok registry =>
          if draft.settings.recordExecutions && !hasRuntime then
            .error (.config (.setting "record_executions" .noRuntime))
          else .ok ⟨draft.settings, backend, dialect, registry⟩ := by
  have hbuild : draft.build hasRuntime = (do
      let catalog ←
        ((Catalog.empty dialect).declareAll draft.declarations).mapError
          Cause.statement
      if draft.settings.recordExecutions && !hasRuntime then
        throw (.config (.setting "record_executions" .noRuntime))
      return ⟨draft.settings, backend, dialect, catalog.registry⟩) := by
    rw [build, hbackend]
    rcases hdialect with hgiven | ⟨hnone, hdriver⟩
    · simp only [hgiven]
      rfl
    · simp only [hnone, hdriver]
      rfl
  rw [hbuild]
  cases (Catalog.empty dialect).declareAll draft.declarations with
  | error e => rfl
  | ok catalog => cases draft.settings.recordExecutions && !hasRuntime <;> rfl

/-- The registry keeps the first statement of each id. In a run of calls to
register, a call fails, and then as a duplicate that changes no look-up, exactly
if an earlier statement whose folded id is the same was accepted. Any spelling
of an id finds the first accepted statement with that folded id, and the size
counts the accepted statements. So a mapper with a backend and a known dialect
is built with all its declarations, or fails with the error of the first one
that is not built or whose id is taken. -/
theorem Registry.keeps_first_statements {σ : Type} {draft : MapperDraft σ}
    {backend : Backend σ} {dialect : Dialect}
    (hbackend : draft.backend = some backend)
    (hdialect : draft.dialect = some dialect ∨
      draft.dialect = none ∧
      Dialect.ofDriver draft.settings.driver = .ok dialect)
    (hasRuntime : Bool) :
    (∀ (calls : List Statement) (s : Statement),
      let (history, registry) := empty.registerAll calls
      let (outcome, after) := registry.register s
      (outcome = .ok () ↔ ¬∃ t ∈ accepted history, fold t.id = fold s.id) ∧
        (outcome ≠ .ok () → outcome = .error (.duplicate (fold s.id)) ∧
          ∀ id, after.get? id = registry.get? id) ∧
        (∀ id, registry.get? id = (accepted history).find? fun t =>
          fold t.id = fold id) ∧
        registry.size = (accepted history).length) ∧
    ∃ outcome,
      Catalog.Registers (Declaration.buildAll dialect 0 draft.declarations)
          outcome ∧
      draft.build hasRuntime = match outcome with
        | .error e => .error (.statement e)
        | .ok registry =>
            if draft.settings.recordExecutions && !hasRuntime then
              .error (.config (.setting "record_executions" .noRuntime))
            else .ok ⟨draft.settings, backend, dialect, registry⟩ := by
  constructor
  · intro calls s
    have hholds := holds_empty.registerAll calls
    rw [List.nil_append] at hholds
    exact ⟨hholds.register_eq_ok_iff, hholds.register_of_failed, hholds.get?_eq,
      hholds.size_eq⟩
  · exact ⟨_, (Catalog.Declared.empty dialect).declareAll draft.declarations,
      draft.build_eq_of_chosen hbackend hdialect hasRuntime⟩

/-- The third declaration spells the id of the first one in another case. -/
theorem Registry.keeps_first_statements_of_colliding_draft :
    let script : Backend.Script := ⟨[], [], [], false, 1⟩
    let declarations : List Declaration :=
      [⟨"findUser", .select, [.sql "SELECT 1"]⟩,
        ⟨"byAge", .select,
          [.sql "SELECT a FROM t", .clause "a" " WHERE a = :a" .present]⟩,
        ⟨"FindUser", .select, [.sql "SELECT 2"]⟩]
    let draft : MapperDraft Backend.Scripted :=
      ⟨⟨"mysql", none, none, none, none, none, true, 0, 0, none, .snake,
        false, 1, []⟩, some script.backend, none, declarations⟩
    Dialect.ofDriver draft.settings.driver = .ok .question ∧
      draft.build true = .error (.statement (.duplicate "FINDUSER")) ∧
      Catalog.Registers (Declaration.buildAll .question 0 declarations)
        (.error (.duplicate "FINDUSER")) := by
  intro script declarations draft
  have hdriver : Dialect.ofDriver draft.settings.driver = .ok .question := by
    decide +kernel
  have hdeclared :
      ((Catalog.empty .question).declareAll declarations).map Catalog.registry =
        .error (.duplicate "FINDUSER") := by
    decide +kernel
  have hfailed :
      draft.build true = .error (.statement (.duplicate "FINDUSER")) := by
    rw [draft.build_eq_of_chosen rfl (.inr ⟨rfl, hdriver⟩), hdeclared]
  obtain ⟨-, outcome, hregisters, hbuild⟩ :=
    @Registry.keeps_first_statements _ draft script.backend .question rfl
      (.inr ⟨rfl, hdriver⟩) true
  refine ⟨hdriver, hfailed, ?_⟩
  rw [hfailed] at hbuild
  cases outcome with
  | error e =>
      cases hbuild
      exact hregisters
  | ok registry => exact nomatch hbuild

end NamedSql
