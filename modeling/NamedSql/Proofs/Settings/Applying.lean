import Mathlib.Data.List.Nodup
import NamedSql.Proofs.Fallible
import NamedSql.Proofs.Keyed
import NamedSql.Proofs.Number.Numerals
import NamedSql.Settings.DataSource

/-!
What the pairs of a query do to a draft. Every key has a place of its own there,
which a pair of this key sets and no other pair touches. So among pairs of
distinct keys the one of a key decides, wherever it stands; a place whose key
has no pair is left as it was.
-/

namespace NamedSql

def flagWords : Bool → List String
  | true => ["true", "1", "yes", "on"]
  | false => ["false", "0", "no", "off"]

/-- A word for a flag, in any case. -/
def SpellsFlag (text : String) (enabled : Bool) : Prop :=
  Text.toAsciiLower text ∈ flagWords enabled

/-- A numeral of 64 bits. -/
def SpellsCount (text : String) (count : Nat) : Prop :=
  count < twoTo 64 ∧ Numeral text.toList count

def namingWords : Naming → List String
  | .snake => ["snake", "snake_case"]
  | .exact => ["exact"]

/-- The name of a naming, in any case. -/
def SpellsNaming (text : String) (naming : Naming) : Prop :=
  Text.toAsciiLower text ∈ namingWords naming

theorem Setting.readFlag_eq_ok_iff {key value : String} {enabled : Bool} :
    readFlag key value = .ok enabled ↔ SpellsFlag value enabled := by
  rw [readFlag, SpellsFlag]
  split <;> cases enabled <;> simp_all [flagWords]

theorem Setting.readCount_eq_ok_iff {key value : String} {count : Nat} :
    readCount key value = .ok count ↔ SpellsCount value count := by
  rw [SpellsCount, ← IntegerRange.toNat_read?_unsigned_eq_some_iff, readCount,
    countRange]
  split
  · next n hread => simp [hread]
  · next hnone => simp [hnone]

theorem Naming.read_eq_ok_iff {text : String} {naming : Naming} :
    read text = .ok naming ↔ SpellsNaming text naming := by
  rw [read, SpellsNaming]
  split <;> cases naming <;> simp_all [namingWords]

/-- A key of a query, with the place that it sets in a draft and the values it
takes. -/
structure QueryKey (α : Type) where
  key : String
  get : SettingsDraft → Option α
  setting : α → Setting
  Spells : String → α → Prop

namespace QueryKey

def debug : QueryKey Bool :=
  ⟨"debug", SettingsDraft.debug, .debug, SpellsFlag⟩

def maxOpen : QueryKey Nat :=
  ⟨"max_open_conns", SettingsDraft.maxOpen, .maxOpen, SpellsCount⟩

def maxIdle : QueryKey Nat :=
  ⟨"max_idle_conns", SettingsDraft.maxIdle, .maxIdle, SpellsCount⟩

def lifetime : QueryKey Nat :=
  ⟨"conn_max_lifetime", SettingsDraft.lifetime, .lifetime, SpellsCount⟩

def naming : QueryKey Naming :=
  ⟨"field_naming", SettingsDraft.naming, .naming, SpellsNaming⟩

def recordExecutions : QueryKey Bool :=
  ⟨"record_executions", SettingsDraft.recordExecutions, .recordExecutions,
    SpellsFlag⟩

def queueSize : QueryKey Nat :=
  ⟨"record_queue_size", SettingsDraft.queueSize, .queueSize, SpellsCount⟩

/-- A free option takes any value as it is. -/
def option (key : String) : QueryKey String :=
  ⟨key, fun draft => draft.options.lookup key, .option key, Eq⟩

end QueryKey

/-- The keys that are no free options. -/
def interpretedKeys : List String :=
  ["debug", "max_open_conns", "max_idle_conns", "conn_max_lifetime",
    "field_naming", "record_executions", "record_queue_size"]

/-- The key of the pairs that stand for a setting, if any do. -/
def Setting.key? : Setting → Option String
  | .debug _ => some QueryKey.debug.key
  | .maxOpen _ => some QueryKey.maxOpen.key
  | .maxIdle _ => some QueryKey.maxIdle.key
  | .lifetime _ => some QueryKey.lifetime.key
  | .naming _ => some QueryKey.naming.key
  | .recordExecutions _ => some QueryKey.recordExecutions.key
  | .queueSize _ => some QueryKey.queueSize.key
  | .option key _ => some key
  | _ => none

/-- What makes a key decide about its place, and alone. -/
structure QueryKey.Lawful {α : Type} (query : QueryKey α) : Prop where
  ofPair_iff : ∀ value setting, Setting.ofPair query.key value = .ok setting ↔
    ∃ a, query.Spells value a ∧ query.setting a = setting
  get_set : ∀ (draft : SettingsDraft) a,
    query.get (draft.set (query.setting a)) = some a
  get_set_of_ne : ∀ (draft : SettingsDraft) (setting : Setting),
    setting.key? ≠ some query.key →
      query.get (draft.set setting) = query.get draft

namespace QueryKey

section

variable {α : Type} {query : QueryKey α} {read : String → Except ConfigError α}

/-- A key is lawful if its pairs are read to the setting of its place. -/
theorem lawful_of_read
    (hspells : ∀ {value a}, read value = .ok a ↔ query.Spells value a)
    (hpair : ∀ value, Setting.ofPair query.key value =
      query.setting <$> read value)
    (hset : ∀ (draft : SettingsDraft) a,
      query.get (draft.set (query.setting a)) = some a)
    (hother : ∀ (draft : SettingsDraft) (setting : Setting),
      setting.key? ≠ some query.key →
      query.get (draft.set setting) = query.get draft) :
    query.Lawful := by
  refine ⟨?_, hset, hother⟩
  intro value setting
  rw [hpair, Fallible.map_eq_ok_iff]
  simp only [hspells]

end

theorem lawful_debug : debug.Lawful := by
  refine lawful_of_read Setting.readFlag_eq_ok_iff (fun _ => rfl)
    (fun _ _ => rfl) ?_
  intro draft setting hne
  cases setting <;> first | rfl | exact absurd rfl hne

theorem lawful_maxOpen : maxOpen.Lawful := by
  refine lawful_of_read Setting.readCount_eq_ok_iff (fun _ => rfl)
    (fun _ _ => rfl) ?_
  intro draft setting hne
  cases setting <;> first | rfl | exact absurd rfl hne

theorem lawful_maxIdle : maxIdle.Lawful := by
  refine lawful_of_read Setting.readCount_eq_ok_iff (fun _ => rfl)
    (fun _ _ => rfl) ?_
  intro draft setting hne
  cases setting <;> first | rfl | exact absurd rfl hne

theorem lawful_lifetime : lifetime.Lawful := by
  refine lawful_of_read Setting.readCount_eq_ok_iff (fun _ => rfl)
    (fun _ _ => rfl) ?_
  intro draft setting hne
  cases setting <;> first | rfl | exact absurd rfl hne

theorem lawful_naming : naming.Lawful := by
  refine lawful_of_read Naming.read_eq_ok_iff (fun _ => rfl) (fun _ _ => rfl) ?_
  intro draft setting hne
  cases setting <;> first | rfl | exact absurd rfl hne

theorem lawful_recordExecutions : recordExecutions.Lawful := by
  refine lawful_of_read Setting.readFlag_eq_ok_iff (fun _ => rfl)
    (fun _ _ => rfl) ?_
  intro draft setting hne
  cases setting <;> first | rfl | exact absurd rfl hne

theorem lawful_queueSize : queueSize.Lawful := by
  refine lawful_of_read Setting.readCount_eq_ok_iff (fun _ => rfl)
    (fun _ _ => rfl) ?_
  intro draft setting hne
  cases setting <;> first | rfl | exact absurd rfl hne

theorem ofPair_of_free {key : String} (h : key ∉ interpretedKeys)
    (value : String) : Setting.ofPair key value = .ok (.option key value) := by
  rw [Setting.ofPair.eq_def]
  split <;> first | rfl | simp [interpretedKeys] at h

theorem lawful_option {key : String} (h : key ∉ interpretedKeys) :
    (option key).Lawful := by
  refine ⟨?_, ?_, ?_⟩
  · intro value setting
    have hpair :
        Setting.ofPair (option key).key value = .ok (.option key value) :=
      ofPair_of_free h value
    rw [hpair, Except.ok.injEq]
    exact ⟨fun heq => ⟨value, rfl, heq⟩, fun ⟨_, hvalue, heq⟩ => hvalue ▸ heq⟩
  · exact fun draft value => Keyed.lookup_insert_self key value draft.options
  · intro draft setting hne
    cases setting with
    | option other value =>
        have hother : key ≠ other := fun heq => hne (congrArg some heq.symm)
        exact Keyed.lookup_update_of_ne _ draft.options hother
    | _ => rfl

end QueryKey

theorem Setting.key?_of_ofPair {key value : String} {setting : Setting}
    (h : ofPair key value = .ok setting) : setting.key? = some key := by
  rw [ofPair.eq_def] at h
  split at h
  all_goals
    first
    | cases h; rfl
    | obtain ⟨_, -, rfl⟩ := Fallible.map_eq_ok_iff.mp h; rfl

/-- The settings that pairs stand for, one for each. -/
def settingsOf (pairs : List (String × String)) :
    Except ConfigError (List Setting) :=
  pairs.mapM fun (key, value) => Setting.ofPair key value

/-- The value that the pairs give for a key: what the value of its pair spells,
or none. -/
def QueryKey.Gives {α : Type} (query : QueryKey α)
    (pairs : List (String × String)) (given : Option α) : Prop :=
  Option.Rel query.Spells (pairs.lookup query.key) given

namespace QueryKey.Lawful

variable {α : Type} {query : QueryKey α} {pairs : List (String × String)}
  {given : Option α}

theorem exists_ofPair (h : query.Lawful) (hgives : query.Gives pairs given)
    {value : String} (hlookup : pairs.lookup query.key = some value) :
    ∃ setting, Setting.ofPair query.key value = .ok setting := by
  rw [Gives, hlookup] at hgives
  obtain @⟨_, a, hspells⟩ := hgives
  exact ⟨query.setting a, (h.ofPair_iff value _).mpr ⟨a, hspells, rfl⟩⟩

/-- Among pairs of distinct keys, the one of a key sets its place. Without such
a pair the place stays as it was. -/
theorem get_setAll (h : query.Lawful) {settings : List Setting}
    (hread : settingsOf pairs = .ok settings)
    (hkeys : (pairs.map Prod.fst).Nodup) (hgives : query.Gives pairs given)
    (draft : SettingsDraft) :
    query.get (draft.setAll settings) = given.or (query.get draft) := by
  induction pairs generalizing settings given draft with
  | nil =>
      cases hread
      cases hgives
      rfl
  | cons pair rest ih =>
      obtain ⟨key, value⟩ := pair
      obtain ⟨setting, others, hpair, hothers, rfl⟩ :=
        Fallible.mapM_cons_eq_ok_iff.mp hread
      obtain ⟨hfresh, hrest⟩ := List.nodup_cons.mp hkeys
      change query.get ((draft.set setting).setAll others) = _
      by_cases hkey : query.key = key
      · subst hkey
        -- No later pair has this key, so what is set now stays.
        have hunset : query.Gives rest none := by
          rw [Gives, Keyed.lookup_of_notMem hfresh]
          exact .none
        rw [Gives, List.lookup_cons, beq_self_eq_true] at hgives
        obtain @⟨_, a, hspells⟩ := hgives
        have hsetting := (h.ofPair_iff value _).mpr ⟨a, hspells, rfl⟩
        cases hpair.symm.trans hsetting
        rw [ih hothers hrest hunset, h.get_set]
        rfl
      · have hother : setting.key? ≠ some query.key := by
          rw [Setting.key?_of_ofPair hpair]
          exact fun heq => hkey (Option.some.inj heq).symm
        rw [Gives, List.lookup_cons, beq_false_of_ne hkey] at hgives
        rw [ih hothers hrest hgives, h.get_set_of_ne draft setting hother]

theorem get_of_unset (h : query.Lawful) {settings : List Setting}
    (hread : settingsOf pairs = .ok settings)
    (hkeys : (pairs.map Prod.fst).Nodup) (hgives : query.Gives pairs given)
    {draft : SettingsDraft} (hunset : query.get draft = none) :
    query.get (draft.setAll settings) = given := by
  rw [h.get_setAll hread hkeys hgives, hunset, Option.or_none]

end QueryKey.Lawful

attribute [ext] SettingsDraft

/-- The part of a draft that no pair sets. -/
def SettingsDraft.endpoint (draft : SettingsDraft) : SettingsDraft :=
  { driver := draft.driver, host := draft.host, port := draft.port,
    username := draft.username, password := draft.password,
    database := draft.database }

/-- An interpreted key sets a place of its own. -/
theorem SettingsDraft.set_of_interpreted {key value : String}
    {setting : Setting} (hpair : Setting.ofPair key value = .ok setting)
    (hkey : key ∈ interpretedKeys) (draft : SettingsDraft) :
    (draft.set setting).endpoint = draft.endpoint ∧
      (draft.set setting).options = draft.options := by
  simp only [interpretedKeys, List.mem_cons, List.not_mem_nil, or_false] at hkey
  rcases hkey with rfl | rfl | rfl | rfl | rfl | rfl | rfl
  all_goals
    obtain ⟨_, -, rfl⟩ := Fallible.map_eq_ok_iff.mp hpair
    exact ⟨rfl, rfl⟩

/-- What holds of a draft that pairs were added to: the endpoint is the same,
the options are still in order, and no interpreted key has become one. -/
structure AddsPairs (before after : SettingsDraft) : Prop where
  endpoint_eq : after.endpoint = before.endpoint
  ascending : Keyed.Ascending before.options → Keyed.Ascending after.options
  lookup_eq : ∀ key ∈ interpretedKeys,
    after.options.lookup key = before.options.lookup key

namespace AddsPairs

variable {before between after draft : SettingsDraft}

theorem refl (draft : SettingsDraft) : AddsPairs draft draft :=
  ⟨rfl, id, fun _ _ => rfl⟩

theorem trans (h : AddsPairs before between) (hnext : AddsPairs between after) :
    AddsPairs before after where
  endpoint_eq := hnext.endpoint_eq.trans h.endpoint_eq
  ascending hbefore := hnext.ascending (h.ascending hbefore)
  lookup_eq key hkey := (hnext.lookup_eq key hkey).trans (h.lookup_eq key hkey)

theorem set {key value : String} {setting : Setting}
    (hpair : Setting.ofPair key value = .ok setting) (draft : SettingsDraft) :
    AddsPairs draft (draft.set setting) := by
  by_cases hkey : key ∈ interpretedKeys
  · obtain ⟨hendpoint, hoptions⟩ :=
      SettingsDraft.set_of_interpreted hpair hkey draft
    exact ⟨hendpoint, fun h => hoptions ▸ h, fun _ _ => hoptions ▸ rfl⟩
  · rw [QueryKey.ofPair_of_free hkey] at hpair
    cases hpair
    refine ⟨rfl, fun h => h.update key _, ?_⟩
    intro reserved hreserved
    have hne : reserved ≠ key := fun heq => hkey (heq ▸ hreserved)
    exact Keyed.lookup_update_of_ne _ draft.options hne

theorem setAll {pairs : List (String × String)} {settings : List Setting}
    (hread : settingsOf pairs = .ok settings) (draft : SettingsDraft) :
    AddsPairs draft (draft.setAll settings) := by
  induction pairs generalizing settings draft with
  | nil =>
      cases hread
      exact refl draft
  | cons pair rest ih =>
      obtain ⟨setting, others, hpair, hothers, rfl⟩ :=
        Fallible.mapM_cons_eq_ok_iff.mp hread
      exact (set hpair draft).trans (ih hothers (draft.set setting))

end AddsPairs

/-- What may be given for the interpreted keys. -/
structure Preferences where
  debug : Option Bool := none
  maxOpen : Option Nat := none
  maxIdle : Option Nat := none
  lifetime : Option Nat := none
  naming : Option Naming := none
  recordExecutions : Option Bool := none
  queueSize : Option Nat := none
deriving DecidableEq, Repr

namespace Preferences

variable {preferences : Preferences} {pairs : List (String × String)}

/-- The pairs give these preferences. -/
structure GivenBy (preferences : Preferences) (pairs : List (String × String)) :
    Prop where
  debug : QueryKey.debug.Gives pairs preferences.debug
  maxOpen : QueryKey.maxOpen.Gives pairs preferences.maxOpen
  maxIdle : QueryKey.maxIdle.Gives pairs preferences.maxIdle
  lifetime : QueryKey.lifetime.Gives pairs preferences.lifetime
  naming : QueryKey.naming.Gives pairs preferences.naming
  recordExecutions :
      QueryKey.recordExecutions.Gives pairs preferences.recordExecutions
  queueSize : QueryKey.queueSize.Gives pairs preferences.queueSize

/-- An endpoint with preferences and free options. -/
def draft (preferences : Preferences) (endpoint : SettingsDraft)
    (options : List (String × String)) : SettingsDraft :=
  { endpoint with
    debug := preferences.debug
    maxOpen := preferences.maxOpen
    maxIdle := preferences.maxIdle
    lifetime := preferences.lifetime
    naming := preferences.naming
    recordExecutions := preferences.recordExecutions
    queueSize := preferences.queueSize
    options }

theorem GivenBy.exists_settingsOf (h : preferences.GivenBy pairs)
    (hkeys : (pairs.map Prod.fst).Nodup) :
    ∃ settings, settingsOf pairs = .ok settings := by
  have hall : ∀ pair ∈ pairs, ∃ setting,
      Setting.ofPair pair.1 pair.2 = .ok setting := by
    rintro ⟨key, value⟩ hmem
    have hlookup := Keyed.lookup_of_mem hkeys hmem
    by_cases hkey : key ∈ interpretedKeys
    · simp only [interpretedKeys, List.mem_cons, List.not_mem_nil, or_false]
        at hkey
      rcases hkey with rfl | rfl | rfl | rfl | rfl | rfl | rfl
      · exact QueryKey.lawful_debug.exists_ofPair h.debug hlookup
      · exact QueryKey.lawful_maxOpen.exists_ofPair h.maxOpen hlookup
      · exact QueryKey.lawful_maxIdle.exists_ofPair h.maxIdle hlookup
      · exact QueryKey.lawful_lifetime.exists_ofPair h.lifetime hlookup
      · exact QueryKey.lawful_naming.exists_ofPair h.naming hlookup
      · exact QueryKey.lawful_recordExecutions.exists_ofPair
          h.recordExecutions hlookup
      · exact QueryKey.lawful_queueSize.exists_ofPair h.queueSize hlookup
    · exact ⟨_, QueryKey.ofPair_of_free hkey value⟩
  rcases hread : settingsOf pairs with e | settings
  · obtain ⟨pair, hmem, hfailed⟩ := Fallible.exists_of_mapM_eq_error hread
    obtain ⟨setting, hpair⟩ := hall pair hmem
    cases hfailed.symm.trans hpair
  · exact ⟨settings, rfl⟩

/-- Pairs of distinct keys bring what they give to an endpoint, and each of the
others as an option. -/
theorem GivenBy.exists_setAll (h : preferences.GivenBy pairs)
    (hkeys : (pairs.map Prod.fst).Nodup) (draft : SettingsDraft) :
    ∃ settings options, settingsOf pairs = .ok settings ∧
      draft.endpoint.setAll settings =
        preferences.draft draft.endpoint options ∧
      Keyed.Ascending options ∧
      ∀ key, options.lookup key = if key ∈ interpretedKeys then none
      else pairs.lookup key := by
  obtain ⟨settings, hread⟩ := h.exists_settingsOf hkeys
  have hadds := AddsPairs.setAll hread draft.endpoint
  refine ⟨settings, (draft.endpoint.setAll settings).options, hread, ?_,
    hadds.ascending .nil, ?_⟩
  · have hendpoint := hadds.endpoint_eq
    apply SettingsDraft.ext
    case driver => exact (congrArg SettingsDraft.driver hendpoint :)
    case host => exact (congrArg SettingsDraft.host hendpoint :)
    case port => exact (congrArg SettingsDraft.port hendpoint :)
    case username => exact (congrArg SettingsDraft.username hendpoint :)
    case password => exact (congrArg SettingsDraft.password hendpoint :)
    case database => exact (congrArg SettingsDraft.database hendpoint :)
    case debug =>
      exact QueryKey.lawful_debug.get_of_unset hread hkeys h.debug rfl
    case maxOpen =>
      exact QueryKey.lawful_maxOpen.get_of_unset hread hkeys h.maxOpen rfl
    case maxIdle =>
      exact QueryKey.lawful_maxIdle.get_of_unset hread hkeys h.maxIdle rfl
    case lifetime =>
      exact QueryKey.lawful_lifetime.get_of_unset hread hkeys h.lifetime rfl
    case naming =>
      exact QueryKey.lawful_naming.get_of_unset hread hkeys h.naming rfl
    case recordExecutions =>
      exact QueryKey.lawful_recordExecutions.get_of_unset hread hkeys
        h.recordExecutions rfl
    case queueSize =>
      exact QueryKey.lawful_queueSize.get_of_unset hread hkeys h.queueSize rfl
    case options => rfl
  · intro key
    split
    · next hkey => exact hadds.lookup_eq key hkey
    · next hfree =>
        have hgives : (QueryKey.option key).Gives pairs (pairs.lookup key) := by
          rw [QueryKey.Gives, QueryKey.option]
          cases pairs.lookup key with
          | none => exact .none
          | some value => exact .some rfl
        exact (QueryKey.lawful_option hfree).get_of_unset hread hkeys hgives rfl

end Preferences

namespace SettingsDraft

/-- What keeps a draft from being complete: the first check that it does not
pass. -/
def fault? (draft : SettingsDraft) : Option ConfigError :=
  let maxOpen := draft.maxOpen.getD 0
  let maxIdle := draft.idleLimit maxOpen
  if (Text.trim (draft.driver.getD "").toList).isEmpty then
    some (.setting "driver" .emptyDriver)
  else if draft.port = some 0 then some (.setting "port" .zeroPort)
  else if draft.queueSize.getD defaultQueueSize = 0 then
    some (.setting "record_queue_size" .zeroQueue)
  else if 0 < maxOpen ∧ maxOpen < maxIdle then
    some (.setting "max_idle_conns" (.idleExceedsOpen maxIdle maxOpen))
  else none

/-- A draft with the defaults filled in. -/
def completed (draft : SettingsDraft) : Settings where
  driver := Text.toAsciiLower (draft.driver.getD "")
  host := given draft.host
  port := draft.port
  username := given draft.username
  password := draft.password
  database := draft.database
  debug := draft.debug.getD false
  maxOpen := draft.maxOpen.getD 0
  maxIdle := draft.idleLimit (draft.maxOpen.getD 0)
  lifetime := draft.lifetime
  naming := draft.naming.getD .snake
  recordExecutions := draft.recordExecutions.getD false
  queueSize := draft.queueSize.getD defaultQueueSize
  options := draft.options

theorem build_eq (draft : SettingsDraft) :
    draft.build = draft.fault?.elim (.ok draft.completed) .error := by
  rw [build, fault?]
  split
  · rfl
  · split
    · rfl
    · split
      · rfl
      · split <;> rfl

theorem build_eq_ok_iff {draft : SettingsDraft} {settings : Settings} :
    draft.build = .ok settings ↔
      draft.fault? = none ∧ settings = draft.completed := by
  rw [build_eq]
  cases draft.fault? with
  | none => simp [eq_comm]
  | some e => simp

end SettingsDraft

namespace Preferences

variable {preferences : Preferences}

/-- What the builder asks of preferences: some room for records, and no limit of
idle connections beyond a limit of open ones, where zero is no limit. -/
structure Acceptable (preferences : Preferences) : Prop where
  queueSize_ne : preferences.queueSize ≠ some 0
  maxIdle_le : ∀ limit, preferences.maxOpen = some limit → limit ≠ 0 →
    ∀ idle, preferences.maxIdle = some idle → idle ≤ limit

/-- The limit of idle connections: the default stays within a limit of open
ones. -/
def idleLimit (preferences : Preferences) : Nat :=
  preferences.maxIdle.getD <|
    if preferences.maxOpen.getD 0 = 0 then SettingsDraft.defaultMaxIdle
    else min SettingsDraft.defaultMaxIdle (preferences.maxOpen.getD 0)

theorem idleLimit_draft (preferences : Preferences) (endpoint : SettingsDraft)
    (options : List (String × String)) :
    (preferences.draft endpoint options).idleLimit
        (preferences.maxOpen.getD 0) =
      preferences.idleLimit := by
  rw [SettingsDraft.idleLimit, idleLimit, draft]
  cases preferences.maxIdle <;> rfl

theorem Acceptable.idleLimit_le (h : preferences.Acceptable)
    (hlimit : 0 < preferences.maxOpen.getD 0) :
    preferences.idleLimit ≤ preferences.maxOpen.getD 0 := by
  rw [idleLimit]
  cases hidle : preferences.maxIdle with
  | none =>
      rw [if_neg (by omega)]
      exact Nat.min_le_right _ _
  | some idle =>
      cases hopen : preferences.maxOpen with
      | none =>
          rw [hopen] at hlimit
          exact absurd hlimit (Nat.lt_irrefl 0)
      | some limit =>
          rw [hopen] at hlimit
          exact h.maxIdle_le limit hopen (Nat.ne_of_gt hlimit) idle hidle

/-- The settings that an endpoint and preferences come to, with the defaults of
the rest. -/
def settings (preferences : Preferences) (driver : String)
    (endpoint : SettingsDraft) (options : List (String × String)) :
    Settings where
  driver := Text.toAsciiLower driver
  host := SettingsDraft.given endpoint.host
  port := endpoint.port
  username := SettingsDraft.given endpoint.username
  password := endpoint.password
  database := endpoint.database
  debug := preferences.debug.getD false
  maxOpen := preferences.maxOpen.getD 0
  maxIdle := preferences.idleLimit
  lifetime := preferences.lifetime
  naming := preferences.naming.getD .snake
  recordExecutions := preferences.recordExecutions.getD false
  queueSize := preferences.queueSize.getD SettingsDraft.defaultQueueSize
  options := options

theorem Acceptable.build_draft (h : preferences.Acceptable)
    {endpoint : SettingsDraft} {driver : String}
    (hdriver : endpoint.driver = some driver)
    (hnamed : Text.trim driver.toList ≠ []) (hport : endpoint.port ≠ some 0)
    (options : List (String × String)) :
    (preferences.draft endpoint options).build =
      .ok (preferences.settings driver endpoint options) := by
  have hname :
      (preferences.draft endpoint options).driver.getD "" = driver := by
    rw [draft, hdriver]
    rfl
  have hqueue :
      preferences.queueSize.getD SettingsDraft.defaultQueueSize ≠ 0 := by
    have hne := h.queueSize_ne
    cases hsize : preferences.queueSize with
    | none => decide
    | some size =>
        rw [hsize] at hne
        exact fun hzero => hne (congrArg some hzero)
  have hidle : ¬(0 < preferences.maxOpen.getD 0 ∧
      preferences.maxOpen.getD 0 < preferences.idleLimit) := by
    rintro ⟨hlimit, hexceeds⟩
    exact Nat.not_lt.mpr (h.idleLimit_le hlimit) hexceeds
  have hmaxOpen :
      (preferences.draft endpoint options).maxOpen = preferences.maxOpen := rfl
  have hsize : (preferences.draft endpoint options).queueSize =
      preferences.queueSize := rfl
  have hsame : (preferences.draft endpoint options).port = endpoint.port := rfl
  have hnotEmpty : (Text.trim driver.toList).isEmpty = false := by
    simpa using hnamed
  simp only [SettingsDraft.build, hname, hmaxOpen, hsize, hsame,
    idleLimit_draft, hnotEmpty, hport, hqueue, hidle, if_false,
    Bool.false_eq_true]
  rfl

end Preferences

/-- The endpoint of a data source. -/
def DataSource.endpoint (source : DataSource) : SettingsDraft :=
  { driver := some source.driver, host := source.host, port := source.port,
    username := source.username, password := source.password,
    database := source.database }

theorem DataSource.exists_settings {source : DataSource}
    {settings : List Setting}
    (hpairs : settingsOf source.pairs = .ok settings) :
    ∃ all, source.settings = .ok all ∧
      SettingsDraft.empty.setAll all = source.endpoint.setAll settings := by
  obtain ⟨driver, username, password, host, port, database, pairs⟩ := source
  have hread : pairs.mapM (fun (key, value) => Setting.ofPair key value) =
      .ok settings := hpairs
  refine ⟨_, by rw [DataSource.settings, hread]; rfl, ?_⟩
  rw [SettingsDraft.setAll, List.foldl_append, SettingsDraft.setAll]
  cases username <;> cases password <;> cases host <;> cases port <;>
    cases database <;> rfl

/-- The settings that a draft comes to when pairs are added to it. -/
def SettingsDraft.withPairs (draft : SettingsDraft)
    (pairs : List (String × String)) :
    Except ConfigError Settings := do
  let settings ← settingsOf pairs
  (draft.setAll settings).build

/-- A name is read to its endpoint with the pairs of its query. -/
theorem Settings.ofDataSource_eq (text : String) :
    ofDataSource text =
        (DataSource.read text).mapError ConfigError.dataSource >>= fun source =>
      source.endpoint.withPairs source.pairs := by
  have hsource : ∀ source : DataSource,
      (source.settings >>= fun all => (SettingsDraft.empty.setAll all).build) =
        source.endpoint.withPairs source.pairs := by
    intro source
    rcases hpairs : settingsOf source.pairs with e | settings
    · rw [DataSource.settings, SettingsDraft.withPairs, hpairs]
      rw [settingsOf] at hpairs
      rw [hpairs]
      rfl
    · obtain ⟨all, hall, hdraft⟩ := DataSource.exists_settings hpairs
      rw [hall, SettingsDraft.withPairs, hpairs]
      change (SettingsDraft.empty.setAll all).build =
        (source.endpoint.setAll settings).build
      rw [hdraft]
  rw [ofDataSource]
  simp only [hsource]

theorem Settings.exists_read {text : String} {settings : Settings}
    (h : ofDataSource text = .ok settings) :
    ∃ source, DataSource.read text = .ok source ∧
      source.endpoint.withPairs source.pairs = .ok settings := by
  rw [ofDataSource_eq, Fallible.bind_eq_ok_iff] at h
  obtain ⟨source, hread, hsettings⟩ := h
  exact ⟨source, Fallible.mapError_eq_ok_iff.mp hread, hsettings⟩

/-- Where settings lead: to the endpoint of a draft, whose empty parts count as
none. -/
structure SettingsDraft.Locates (draft : SettingsDraft) (settings : Settings) :
    Prop where
  host : settings.host = given draft.host
  port : settings.port = draft.port
  username : settings.username = given draft.username
  password : settings.password = draft.password
  database : settings.database = draft.database

theorem SettingsDraft.locates_of_build {draft : SettingsDraft}
    {settings : Settings} (h : draft.build = .ok settings) :
    draft.Locates settings := by
  rw [(build_eq_ok_iff.mp h).2]
  exact ⟨rfl, rfl, rfl, rfl, rfl⟩

/-- Pairs do not lead elsewhere. -/
theorem SettingsDraft.locates_of_withPairs {draft : SettingsDraft}
    {pairs : List (String × String)} {settings : Settings}
    (h : draft.withPairs pairs = .ok settings) : draft.Locates settings := by
  obtain ⟨added, hread, hbuild⟩ := Fallible.bind_eq_ok_iff.mp h
  obtain ⟨hhost, hport, husername, hpassword, hdatabase⟩ :=
    locates_of_build hbuild
  have hlocated : (draft.setAll added).endpoint.Locates settings :=
    ⟨hhost, hport, husername, hpassword, hdatabase⟩
  rw [(AddsPairs.setAll hread draft).endpoint_eq] at hlocated
  exact ⟨hlocated.host, hlocated.port, hlocated.username, hlocated.password,
    hlocated.database⟩

/-- A name whose query gives acceptable preferences is read to these, with the
endpoint. The pairs of all other keys are its options. -/
theorem Preferences.GivenBy.ofDataSource_eq {preferences : Preferences}
    {text : String} {source : DataSource} (h : preferences.GivenBy source.pairs)
    (hread : DataSource.read text = .ok source)
    (hkeys : (source.pairs.map Prod.fst).Nodup) :
    ∃ options, Settings.ofDataSource text =
      (preferences.draft source.endpoint options).build ∧
      Keyed.Ascending options ∧
      ∀ key, options.lookup key =
        if key ∈ interpretedKeys then none else source.pairs.lookup key := by
  obtain ⟨settings, options, hpairs, hset, hascending, hlookup⟩ :=
    h.exists_setAll hkeys source.endpoint
  refine ⟨options, ?_, hascending, hlookup⟩
  rw [Settings.ofDataSource_eq, hread]
  change source.endpoint.withPairs source.pairs = _
  rw [SettingsDraft.withPairs, hpairs]
  exact congrArg SettingsDraft.build hset

end NamedSql
