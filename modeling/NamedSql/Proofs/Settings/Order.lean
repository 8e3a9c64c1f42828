import NamedSql.Proofs.Settings.Applying
import NamedSql.Proofs.Settings.Outline

/-!
The pairs of a query may be taken in any order. A pair sets a place that no pair
of another key touches, so pairs of distinct keys lead to the same draft in
every order, or to none in any. Which fault is found may depend on the order
where there are several, and so may the place of an option among others; with
one of each at most, the order shows nowhere.
-/

namespace NamedSql

/-- Settings of different keys have different places. -/
theorem SettingsDraft.set_comm {first second : Setting}
    (h : first.key? ≠ second.key?) (draft : SettingsDraft) :
    (draft.set first).set second = (draft.set second).set first := by
  cases first with
  | option key value =>
      cases second with
      | option other found =>
          have hkey : key ≠ other := fun heq => h (congrArg some heq)
          exact congrArg (fun options => { draft with options })
            (Keyed.insert_comm hkey.symm found value draft.options)
      | _ => rfl
  | _ => cases second <;> first | rfl | exact absurd rfl h

/-- Each setting has the key of its pair. -/
theorem map_key?_of_settingsOf {pairs : List (String × String)}
    {settings : List Setting} (h : settingsOf pairs = .ok settings) :
    settings.map Setting.key? = pairs.map fun pair => some pair.1 := by
  induction pairs generalizing settings with
  | nil =>
      cases h
      rfl
  | cons pair rest ih =>
      obtain ⟨setting, others, hpair, hothers, rfl⟩ :=
        Fallible.mapM_cons_eq_ok_iff.mp h
      rw [List.map_cons, List.map_cons, Setting.key?_of_ofPair hpair,
        ih hothers]

/-- Settings of distinct keys are set in any order. -/
theorem SettingsDraft.setAll_perm {settings others : List Setting}
    (hperm : settings.Perm others) (hkeys : (settings.map Setting.key?).Nodup)
    (draft : SettingsDraft) : draft.setAll settings = draft.setAll others := by
  apply hperm.foldl_eq'
  intro first hfirst second hsecond draft
  by_cases hkey : first.key? = second.key?
  · rw [List.inj_on_of_nodup_map hkeys hfirst hsecond hkey]
  · exact set_comm hkey draft

/-- In any other order, pairs that are read lead to the same draft. -/
theorem exists_settingsOf_perm {pairs others : List (String × String)}
    {settings : List Setting} (hperm : pairs.Perm others)
    (hkeys : (pairs.map Prod.fst).Nodup) (h : settingsOf pairs = .ok settings) :
    ∃ rearranged, settingsOf others = .ok rearranged ∧
      ∀ draft : SettingsDraft,
        draft.setAll settings = draft.setAll rearranged := by
  obtain ⟨rearranged, hothers, hsettings⟩ :=
    Fallible.exists_mapM_of_perm hperm h
  refine ⟨rearranged, hothers, SettingsDraft.setAll_perm hsettings ?_⟩
  rw [map_key?_of_settingsOf h]
  have hsome :
      (pairs.map Prod.fst).map some = pairs.map fun pair => some pair.1 := by
    rw [List.map_map]
    rfl
  exact hsome ▸ hkeys.map fun _ _ => Option.some.inj

/-- Pairs of distinct keys come to the same in every order, unless a value among
them is faulty. -/
theorem SettingsDraft.withPairs_perm {pairs others : List (String × String)}
    (hkeys : (pairs.map Prod.fst).Nodup) (hperm : pairs.Perm others)
    (draft : SettingsDraft) :
    draft.withPairs pairs = draft.withPairs others ∨
      ∃ e e', settingsOf pairs = .error e ∧ settingsOf others = .error e' := by
  rcases hpairs : settingsOf pairs with e | settings
  · rcases hothers : settingsOf others with e' | rearranged
    · exact .inr ⟨e, e', rfl, rfl⟩
    · obtain ⟨_, hfound, -⟩ := Fallible.exists_mapM_of_perm hperm.symm hothers
      cases hpairs.symm.trans hfound
  · obtain ⟨rearranged, hothers, hset⟩ :=
      exists_settingsOf_perm hperm hkeys hpairs
    rw [withPairs, withPairs, hpairs, hothers]
    exact .inl (congrArg build (hset draft))

/-- Pairs of distinct keys that are added to a draft give the same settings in
every order, or fail in every order. -/
theorem SettingsDraft.withPairs_of_any_order
    {pairs others : List (String × String)} (hkeys : (pairs.map Prod.fst).Nodup)
    (hperm : pairs.Perm others) (draft : SettingsDraft) :
    (∃ settings, draft.withPairs pairs = .ok settings ∧
      draft.withPairs others = .ok settings) ∨
      ∃ e e', draft.withPairs pairs = .error e ∧
        draft.withPairs others = .error e' := by
  rcases withPairs_perm hkeys hperm draft with hsame | ⟨e, e', hpairs, hothers⟩
  · rcases hbuilt : draft.withPairs pairs with e | settings
    · exact .inr ⟨e, e, rfl, hsame ▸ hbuilt⟩
    · exact .inl ⟨settings, rfl, hsame ▸ hbuilt⟩
  · rw [withPairs, withPairs, hpairs, hothers]
    exact .inr ⟨e, e', rfl, rfl⟩

theorem SettingsDraft.withPairs_of_any_order_reversed :
    let draft : SettingsDraft := { driver := some "mysql", maxIdle := some 9 }
    let pairs :=
      [("ssl", "on"), ("max_open_conns", "3"), ("app", "shop"),
        ("max_idle_conns", "2")]
    (pairs.map Prod.fst).Nodup ∧ pairs.Perm pairs.reverse ∧
      ∃ settings, draft.withPairs pairs = .ok settings ∧
        draft.withPairs pairs.reverse = .ok settings := by
  intro draft pairs
  have hkeys : (pairs.map Prod.fst).Nodup := by decide
  have hperm : pairs.Perm pairs.reverse := (List.reverse_perm pairs).symm
  have hread : (draft.withPairs pairs).isOk = true := by decide +kernel
  refine ⟨hkeys, hperm, ?_⟩
  rcases withPairs_of_any_order hkeys hperm
    draft with hsettings | ⟨e, -, herror, -⟩
  · exact hsettings
  · rw [herror] at hread
    cases hread

/-- An order in which the entries of a hash map may come. -/
structure HashOrder where
  arrange : List (String × String) → List (String × String)
  perm : ∀ entries, (arrange entries).Perm entries

namespace HashOrder

def asGiven : HashOrder :=
  ⟨id, fun entries => .refl entries⟩

def reversed : HashOrder :=
  ⟨List.reverse, List.reverse_perm⟩

theorem arrange_of_length_le_one (order : HashOrder)
    {entries : List (String × String)} (h : entries.length ≤ 1) :
    order.arrange entries = entries := by
  have hperm := order.perm entries
  match entries with
  | [] => exact hperm.eq_nil
  | [entry] => exact List.perm_singleton.mp hperm

end HashOrder

/-- Reads settings from a name, with the pairs of its query in some order. -/
def Settings.ofDataSourceIn (order : HashOrder) (text : String) :
    Except ConfigError Settings := do
  let source ← (DataSource.read text).mapError ConfigError.dataSource
  source.endpoint.withPairs (order.arrange source.pairs)

theorem Settings.ofDataSourceIn_asGiven (text : String) :
    ofDataSourceIn .asGiven text = ofDataSource text :=
  (ofDataSource_eq text).symm

/-- The settings with their options in some order. -/
def Settings.inOrder (order : HashOrder) (settings : Settings) : Settings :=
  { settings with options := order.arrange settings.options }

/-- Pairs of which the order shows nowhere: at most one value is faulty, and at
most one pair is a free option. -/
structure Orderless (pairs : List (String × String)) : Prop where
  faults_le :
      pairs.countP (fun pair => !(Setting.ofPair pair.1 pair.2).isOk) ≤ 1
  options_le : pairs.countP (fun pair => decide (pair.1 ∉ interpretedKeys)) ≤ 1

theorem eq_of_countP_le_one {α : Type} {p : α → Bool} {xs : List α}
    (h : xs.countP p ≤ 1) {x y : α} (hx : x ∈ xs) (hpx : p x = true)
    (hy : y ∈ xs) (hpy : p y = true) : x = y := by
  rw [List.countP_eq_length_filter] at h
  have hxs : x ∈ xs.filter p := List.mem_filter.mpr ⟨hx, hpx⟩
  have hys : y ∈ xs.filter p := List.mem_filter.mpr ⟨hy, hpy⟩
  match hfilter : xs.filter p with
  | [] =>
      rw [hfilter] at hxs
      cases hxs
  | [found] =>
      rw [hfilter] at hxs hys
      exact (List.mem_singleton.mp hxs).trans (List.mem_singleton.mp hys).symm
  | _ :: _ :: _ =>
      rw [hfilter] at h
      exact absurd h (by simp)

theorem exists_faulty_of_settingsOf {pairs : List (String × String)}
    {e : ConfigError} (h : settingsOf pairs = .error e) : ∃ pair ∈ pairs,
      (!(Setting.ofPair pair.1 pair.2).isOk) = true ∧
        Setting.ofPair pair.1 pair.2 = .error e := by
  obtain ⟨⟨key, value⟩, hmem, hfault⟩ := Fallible.exists_of_mapM_eq_error h
  have hpair : Setting.ofPair key value = .error e := hfault
  exact ⟨(key, value), hmem, by rw [hpair]; rfl, hpair⟩

/-- With one faulty value at most, it does not depend on the order which fault
is found. -/
theorem Orderless.withPairs_eq {pairs others : List (String × String)}
    (h : Orderless pairs) (hkeys : (pairs.map Prod.fst).Nodup)
    (hperm : pairs.Perm others) (draft : SettingsDraft) :
    draft.withPairs pairs = draft.withPairs others := by
  rcases SettingsDraft.withPairs_perm hkeys hperm
    draft with hsame | ⟨e, e', hpairs, hothers⟩
  · exact hsame
  · obtain ⟨pair, hmem, hfaulty, hpair⟩ := exists_faulty_of_settingsOf hpairs
    obtain ⟨other, hmem', hfaulty', hother⟩ :=
      exists_faulty_of_settingsOf hothers
    have heq :=
      eq_of_countP_le_one h.faults_le hmem hfaulty (hperm.mem_iff.mpr hmem')
        hfaulty'
    rw [← heq, hpair] at hother
    cases hother
    rw [SettingsDraft.withPairs, SettingsDraft.withPairs, hpairs, hothers]

/-- Only free options are kept as options. -/
theorem SettingsDraft.length_options_setAll {pairs : List (String × String)}
    {settings : List Setting} (h : settingsOf pairs = .ok settings)
    (draft : SettingsDraft) :
    (draft.setAll settings).options.length ≤ draft.options.length +
      pairs.countP (fun pair => decide (pair.1 ∉ interpretedKeys)) := by
  induction pairs generalizing settings draft with
  | nil =>
      cases h
      exact Nat.le_refl _
  | cons pair rest ih =>
      obtain ⟨key, value⟩ := pair
      obtain ⟨setting, others, hpair, hothers, rfl⟩ :=
        Fallible.mapM_cons_eq_ok_iff.mp h
      have hset : (draft.set setting).options.length ≤ draft.options.length +
          if key ∉ interpretedKeys then 1 else 0 := by
        split
        · next hfree =>
            cases (QueryKey.ofPair_of_free hfree value).symm.trans hpair
            exact Keyed.length_update_le _ draft.options
        · next hkey =>
            rw [(set_of_interpreted hpair (not_not.mp hkey) draft).2]
            exact Nat.le_refl _
      have hrest := ih hothers (draft.set setting)
      rw [List.countP_cons]
      simp only [decide_eq_true_eq]
      change ((draft.set setting).setAll others).options.length ≤ _
      omega

theorem DataSource.lastPairs_sublist (pairs : List (String × String)) :
    (lastPairs pairs).Sublist pairs := by
  induction pairs with
  | nil => exact .slnil
  | cons pair rest ih =>
      rw [lastPairs]
      split
      · exact ih.cons pair
      · exact ih.cons_cons pair

theorem DataSource.nodup_lastPairs (pairs : List (String × String)) :
    ((lastPairs pairs).map Prod.fst).Nodup := by
  induction pairs with
  | nil => exact List.nodup_nil
  | cons pair rest ih =>
      rw [lastPairs]
      split
      · exact ih
      · next hlast =>
          rw [List.map_cons, List.nodup_cons]
          refine ⟨?_, ih⟩
          intro hmem
          obtain ⟨later, hlater, heq⟩ := List.mem_map.mp hmem
          have hrest : later ∈ rest := (lastPairs_sublist rest).subset hlater
          exact hlast (List.any_eq_true.mpr ⟨later, hrest, beq_iff_eq.mpr heq⟩)

theorem DataSource.nodup_of_read {text : String} {source : DataSource}
    (h : DataSource.read text = .ok source) :
    (source.pairs.map Prod.fst).Nodup := by
  obtain ⟨outline, -, houtline⟩ := exists_outline h
  have hpairs := (Outline.read_eq_ok houtline).1
  rw [readPairs, Fallible.map_eq_ok_iff] at hpairs
  obtain ⟨pairs, -, hlast⟩ := hpairs
  rw [← hlast]
  exact nodup_lastPairs pairs

/-- What a name is read to does not depend on the order of pairs that show
none. -/
theorem Settings.ofDataSourceIn_eq {text : String}
    (h : ∀ source, DataSource.read text = .ok source → Orderless source.pairs)
    (order other : HashOrder) :
    ofDataSourceIn order text = ofDataSourceIn other text := by
  rw [ofDataSourceIn, ofDataSourceIn]
  rcases hread : DataSource.read text with e | source
  · rfl
  · have hkeys := DataSource.nodup_of_read hread
    have hsame : ∀ order : HashOrder, source.endpoint.withPairs source.pairs =
        source.endpoint.withPairs (order.arrange source.pairs) := fun order =>
      (h source hread).withPairs_eq hkeys (order.perm source.pairs).symm _
    exact (hsame order).symm.trans (hsame other)

theorem Settings.length_options_le {text : String} {settings : Settings}
    {order : HashOrder} (h : ∀ source, DataSource.read text = .ok source →
      Orderless source.pairs)
    (hsettings : ofDataSourceIn order text = .ok settings) :
    settings.options.length ≤ 1 := by
  rw [ofDataSourceIn_eq h order .asGiven, ofDataSourceIn_asGiven] at hsettings
  obtain ⟨source, hread, hpairs⟩ := exists_read hsettings
  obtain ⟨added, hadded, hbuild⟩ := Fallible.bind_eq_ok_iff.mp hpairs
  have hlength := SettingsDraft.length_options_setAll hadded source.endpoint
  have hfree := (h source hread).options_le
  have hnone : source.endpoint.options.length = 0 := rfl
  have hoptions :
      settings.options = (source.endpoint.setAll added).options := by
    rw [(SettingsDraft.build_eq_ok_iff.mp hbuild).2]
    rfl
  rw [hoptions]
  omega

end NamedSql
