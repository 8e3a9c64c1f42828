import NamedSql.Mapper
import NamedSql.Proofs.Settings.Order
import NamedSql.Proofs.Settings.Written

/-!
A password is not shown. Reading a name with a password is reading the name
without it and keeping the password aside, so whatever goes wrong does so for
every password, and settings that differ in the password alone are written
alike. Where a hash map leaves the order of its entries open, that holds for any
two orders.
-/

namespace NamedSql

def Settings.withPassword (secret : String) (settings : Settings) : Settings :=
  { settings with password := some secret }

theorem SettingsDraft.build_password (draft : SettingsDraft) (secret : String) :
    (draft.set (.password secret)).build =
      Settings.withPassword secret <$> draft.build := by
  have hfault : (draft.set (.password secret)).fault? = draft.fault? := rfl
  have hcompleted : (draft.set (.password secret)).completed =
      draft.completed.withPassword secret := rfl
  rw [build_eq, build_eq, hfault, hcompleted]
  cases draft.fault? <;> rfl

/-- No pair of a query is a password, so this may as well be set behind the
pairs. -/
theorem SettingsDraft.setAll_password {pairs : List (String × String)}
    {settings : List Setting} (h : settingsOf pairs = .ok settings)
    (draft : SettingsDraft) (secret : String) :
    (draft.set (.password secret)).setAll settings =
      (draft.setAll settings).set (.password secret) := by
  induction pairs generalizing settings draft with
  | nil =>
      cases h
      rfl
  | cons pair rest ih =>
      obtain ⟨setting, others, hpair, hothers, rfl⟩ :=
        Fallible.mapM_cons_eq_ok_iff.mp h
      have hkey : (Setting.password secret).key? ≠ setting.key? := by
        rw [Setting.key?_of_ofPair hpair]
        exact (Option.some_ne_none pair.1).symm
      change ((draft.set (.password secret)).set setting).setAll others =
        ((draft.set setting).setAll others).set (.password secret)
      rw [set_comm hkey, ih hothers]

theorem SettingsDraft.withPairs_password (draft : SettingsDraft)
    (secret : String) (pairs : List (String × String)) :
    (draft.set (.password secret)).withPairs pairs =
      Settings.withPassword secret <$> draft.withPairs pairs := by
  rw [withPairs, withPairs]
  rcases hread : settingsOf pairs with e | settings
  · rfl
  · change ((draft.set (.password secret)).setAll settings).build =
      Settings.withPassword secret <$> (draft.setAll settings).build
    rw [setAll_password hread, build_password]

/-- Settings that no text tells apart, in whatever orders their options come. -/
structure Settings.LooksLike (first second : Settings) : Prop where
  summary : first.summary = second.summary
  describe : ∀ order other : HashOrder,
    (first.inOrder order).describe = (second.inOrder other).describe
  describe_draft :
      ∀ {σ : Type} (backend : Option (Backend σ)) (dialect : Option Dialect)
    (declarations : List Declaration) (order other : HashOrder),
    MapperDraft.describe ⟨first.inOrder order, backend, dialect, declarations⟩ =
      MapperDraft.describe
        ⟨second.inOrder other, backend, dialect, declarations⟩

/-- Of a password it is written that there is one, and nothing else. -/
theorem Settings.describe_withPassword (settings : Settings)
    (secret other : String) :
    (settings.withPassword secret).describe =
      (settings.withPassword other).describe := by
  simp only [describe, withPassword, Option.map_some]

theorem Settings.summary_withPassword (settings : Settings)
    (secret other : String) :
    (settings.withPassword secret).summary =
      (settings.withPassword other).summary := by
  simp only [summary, withPassword]

theorem Settings.inOrder_of_length_le_one (settings : Settings)
    (h : settings.options.length ≤ 1) (order : HashOrder) :
    settings.inOrder order = settings := by
  rw [inOrder, order.arrange_of_length_le_one h]

theorem MapperDraft.describe_of_settings {σ : Type} {first second : Settings}
    (h : first.describe = second.describe) (backend : Option (Backend σ))
    (dialect : Option Dialect) (declarations : List Declaration) :
    MapperDraft.describe ⟨first, backend, dialect, declarations⟩ =
      MapperDraft.describe ⟨second, backend, dialect, declarations⟩ :=
  congrArg (fun text =>
    "MapperBuilder \x7b preference: " ++ text ++ ", has_backend: " ++
      toString backend.isSome ++ ", statements: " ++
      toString declarations.length ++ " \x7d") h

theorem Settings.looksLike_withPassword {settings : Settings}
    (h : settings.options.length ≤ 1) (secret other : String) :
    (settings.withPassword secret).LooksLike (settings.withPassword other) := by
  have hdescribe := settings.describe_withPassword secret other
  have hinOrder : ∀ (secret : String) (order : HashOrder),
      (settings.withPassword secret).inOrder order =
        settings.withPassword secret := by
    intro secret order
    exact (settings.withPassword secret).inOrder_of_length_le_one h order
  refine ⟨settings.summary_withPassword secret other, ?_, ?_⟩
  · intro order order'
    rw [hinOrder, hinOrder, hdescribe]
  · intro σ backend dialect declarations order order'
    rw [hinOrder, hinOrder]
    exact MapperDraft.describe_of_settings hdescribe backend dialect
      declarations

/-- A password in a percent-encoded form. -/
structure Password where
  form : String
  free : ∀ c ∈ [':', '/', '?', '@'], c ∉ form.toList
  text : String
  decoded : Text.percentDecode form.toList = .ok text.toList

/-- A data source name with a place for a password. -/
structure LockedName where
  driver : Bare [':']
  user : String
  rest : String
  user_free : ∀ c ∈ [':', '/', '?', '@'], c ∉ user.toList
  rest_free : '@' ∉ rest.toList.takeWhile (· ≠ '?')

/-- An outline with other credentials. -/
def Outline.withCredentials (outline : Outline) (part : List Char)
    (h : '?' ∉ part) : Outline :=
  { outline with
    credentials := some part
    credentials_free := fun _ heq => Option.some.inj heq ▸ h }

def DataSource.withPassword (secret : String) (source : DataSource) :
    DataSource :=
  { source with password := some secret }

namespace Password

variable {user : List Char} (password : Password)

theorem decode_form :
    DataSource.decode "password" password.form.toList = .ok password.text := by
  simp only [DataSource.decode, password.decoded, String.ofList_toList]

/-- Behind a user without colons, a password is read by itself. -/
theorem readCredentials (huser : ':' ∉ user) :
    DataSource.readCredentials (user ++ ':' :: password.form.toList) =
      (fun account => (account.1, some password.text)) <$>
        DataSource.readCredentials user := by
  have hnone := Text.splitFirst?_eq_none_iff.mpr huser
  simp only [DataSource.readCredentials, Text.splitFirst?_append _ huser, hnone,
    password.decode_form]
  cases DataSource.decode "username" user <;> rfl

theorem read_withCredentials (outline : Outline) (huser : ':' ∉ user)
    (hopen : '?' ∉ user) (hlocked : '?' ∉ user ++ ':' :: password.form.toList) :
    (outline.withCredentials _ hlocked).read =
      DataSource.withPassword password.text <$>
        (outline.withCredentials user hopen).read := by
  rw [Outline.read, Outline.read]
  simp only [Outline.withCredentials, Option.mapM_some,
    password.readCredentials huser]
  rcases DataSource.readPairs (outline.query.getD []) with e | pairs
  · rfl
  · rcases DataSource.readCredentials user with e | account
    · rfl
    · rcases DataSource.readAddress outline.address with e | address <;> rfl

end Password

namespace LockedName

variable (locked : LockedName) (password : Password)

/-- The name with a password. -/
def text : String :=
  locked.driver.text ++ "://" ++ locked.user ++ ":" ++ password.form ++ "@" ++
    locked.rest

/-- The name without a password. -/
def openText : String :=
  locked.driver.text ++ "://" ++ locked.user ++ "@" ++ locked.rest

/-- Credentials without a question mark end where they are meant to, whatever
else they hold. -/
theorem exists_outline :
    ∃ outline : Outline, ∀ (part : List Char) (h : '?' ∉ part),
    Text.trim (locked.driver.text.toList ++
        ':' :: ('/' :: '/' :: part ++ '@' :: locked.rest.toList)) =
      (outline.withCredentials part h).form := by
  obtain ⟨location, query, hrest, hquery⟩ := Text.exists_withLead '?'
    (Text.trimEnd locked.rest.toList)
  have hat : '@' ∉ location := by
    obtain ⟨blanks, hblanks⟩ :=
      List.rdropWhile_prefix Text.isBlank locked.rest.toList
    have hlocation : ∀ c ∈ location, decide (c ≠ '?') = true := by
      intro c hmem
      exact decide_eq_true fun heq => hquery (heq ▸ hmem)
    have hfree := locked.rest_free
    change Text.trimEnd locked.rest.toList ++ blanks =
      locked.rest.toList at hblanks
    rw [← hblanks, hrest, List.append_assoc,
      List.takeWhile_append_of_pos hlocation] at hfree
    exact fun hmem => hfree (List.mem_append_left _ hmem)
  obtain ⟨address, database, rfl, haddress, hdatabase⟩ :=
    exists_location hquery hat
  let outline : Outline := {
    driver := locked.driver.text.toList
    credentials := none
    address, database, query
    driver_ends :=
      Text.not_infix_of_notMem (locked.driver.free.notMem (by decide))
    credentials_free := by simp
    address_free := haddress
    database_free := hdatabase }
  refine ⟨outline, ?_⟩
  intro part h
  rw [locked.driver.free.trim_append (by decide),
    Text.trimEnd_append (by decide), hrest]
  simp [outline, Outline.form, Outline.main, Outline.location,
    Outline.withCredentials, Text.withEnd]

/-- A password is kept aside when a name is read. -/
theorem read_text : DataSource.read (locked.text password) =
    DataSource.withPassword password.text <$>
      DataSource.read locked.openText := by
  obtain ⟨outline, houtline⟩ := locked.exists_outline
  have hopen : '?' ∉ locked.user.toList := locked.user_free '?' (by decide)
  have hlocked : '?' ∉ locked.user.toList ++ ':' :: password.form.toList := by
    have hpassword : '?' ∉ password.form.toList := password.free '?' (by decide)
    simp [hopen, hpassword]
  have htext : Text.trim (locked.text password).toList =
      (outline.withCredentials _ hlocked).form := by
    rw [← houtline _ hlocked]
    simp [text]
  have hopenText : Text.trim locked.openText.toList =
      (outline.withCredentials _ hopen).form := by
    rw [← houtline _ hopen]
    simp [openText]
  rw [Outline.read_form _ htext, Outline.read_form _ hopenText]
  exact password.read_withCredentials outline (locked.user_free ':' (by decide))
    hopen hlocked

theorem ofDataSourceIn_text (order : HashOrder) :
    Settings.ofDataSourceIn order (locked.text password) =
      Settings.withPassword password.text <$>
        Settings.ofDataSourceIn order locked.openText := by
  rw [Settings.ofDataSourceIn, Settings.ofDataSourceIn,
    locked.read_text password]
  rcases DataSource.read locked.openText with e | source
  · rfl
  · exact SettingsDraft.withPairs_password source.endpoint password.text _

end LockedName

/-- Outcomes that no text tells apart: the same error, or settings that are
written alike. -/
inductive Settings.Indistinct :
    Except ConfigError Settings → Except ConfigError Settings → Prop
  | error (e : ConfigError) : Indistinct (.error e) (.error e)
  | ok {first second : Settings} (h : first.LooksLike second) :
      Indistinct (.ok first) (.ok second)

/-- A name says the same with any password, whether it is read or not and in
whatever orders its pairs come, if their order shows nowhere else. -/
theorem LockedName.password_never_shows (locked : LockedName)
    (first second : Password)
    (hquery : ∀ source, DataSource.read (locked.text first) = .ok source →
      Orderless source.pairs) (order other : HashOrder) :
    Settings.Indistinct (Settings.ofDataSourceIn order (locked.text first))
      (Settings.ofDataSourceIn other (locked.text second)) := by
  have hopen : ∀ source, DataSource.read locked.openText = .ok source →
      Orderless source.pairs := by
    intro source hread
    have hfirst := locked.read_text first
    rw [hread] at hfirst
    exact hquery (source.withPassword first.text) hfirst
  rw [locked.ofDataSourceIn_text, locked.ofDataSourceIn_text,
    Settings.ofDataSourceIn_eq hopen other order]
  rcases hsettings :
      Settings.ofDataSourceIn order locked.openText with e | settings
  · exact .error e
  · have hlength := Settings.length_options_le hopen hsettings
    exact .ok (Settings.looksLike_withPassword hlength first.text second.text)

theorem LockedName.password_never_shows_reversed :
    let locked : LockedName := {
      driver := ⟨"mysql", by decide⟩
      user := "app"
      rest := "[::1]:3306/shop?sslmode=on&max_open_conns=3&debug=1"
      user_free := by simp
      rest_free := by decide }
    let first : Password := ⟨"s%40cret", by simp, "s@cret", by decide +kernel⟩
    let second : Password := ⟨"", by simp, "", by decide +kernel⟩
    (∀ source, DataSource.read (locked.text first) = .ok source →
      Orderless source.pairs) ∧
      Settings.Indistinct (Settings.ofDataSource (locked.text first))
        (Settings.ofDataSourceIn .reversed (locked.text second)) := by
  intro locked first second
  have hread : DataSource.read (locked.text first) = .ok {
      driver := "mysql", username := some "app", password := some "s@cret"
      host := some "::1", port := some 3306, database := some "shop"
      pairs := [("sslmode", "on"), ("max_open_conns", "3"), ("debug", "1")]
          } := by
    decide +kernel
  have hquery : ∀ source, DataSource.read (locked.text first) = .ok source →
      Orderless source.pairs := by
    intro source hsource
    rw [hread] at hsource
    cases hsource
    exact ⟨by decide +kernel, by decide +kernel⟩
  refine ⟨hquery, ?_⟩
  rw [← Settings.ofDataSourceIn_asGiven]
  exact locked.password_never_shows first second hquery .asGiven .reversed

end NamedSql
