import NamedSql.Proofs.Naming.Stability
import NamedSql.Proofs.Settings.Outline
import NamedSql.Proofs.Settings.Written

/-!
Where a data source name leads. The address gives the host and the port, and of
a name that is read nothing in it is left out but what stands behind a closing
bracket and is no port. A name without credentials and address is that of a
file, whatever its path, unless the path holds the separator that ends
credentials.
-/

namespace NamedSql

/-- The addresses of a host and a port: both may be missing, and the host may
stand in brackets. -/
inductive AddressForm : List Char → List Char → Option Nat → Prop
  | name (host : List Char) : AddressForm host host none
  | namePort (host : List Char) {digits : List Char} {port : Nat}
      (h : Numeral digits port) :
      AddressForm (host ++ ':' :: digits) host (some port)
  | bracketed (host : List Char) :
      AddressForm ('[' :: (host ++ [']'])) host none
  | bracketedPort (host : List Char) {digits : List Char} {port : Nat}
      (h : Numeral digits port) :
      AddressForm ('[' :: (host ++ ']' :: ':' :: digits)) host (some port)

namespace DataSource

variable {address host digits : List Char} {port : Nat}

theorem readPort_eq_ok_iff :
    readPort digits = .ok port ↔ port < twoTo 16 ∧ Numeral digits port := by
  rw [← IntegerRange.toNat_read?_unsigned_eq_some_iff, readPort, portRange]
  split
  · next n hread => simp [hread]
  · next hnone => simp [hnone]

theorem eq_of_splitAddress_some
    (h : splitAddress address = .ok (host, some digits)) :
    address = host ++ ':' :: digits ∨
      address = '[' :: (host ++ ']' :: ':' :: digits) := by
  rw [splitAddress.eq_def] at h
  split at h
  · next bracketed =>
      split at h
      · cases h
      · next hsplit =>
          cases h
          rw [(Text.eq_append_of_splitFirst? hsplit).1]
          exact .inr rfl
      · cases h
  · split at h
    · next hsplit =>
        cases h
        exact .inl (Text.eq_append_of_splitLast? hsplit).1
    · cases h

theorem eq_of_splitAddress_none (h : splitAddress address = .ok (host, none)) :
    address = host ∨
      ∃ rest, rest.head? ≠ some ':' ∧
        address = '[' :: (host ++ ']' :: rest) := by
  rw [splitAddress.eq_def] at h
  split at h
  · next bracketed =>
      split at h
      · cases h
      · cases h
      · next rest hport hsplit =>
          cases h
          refine .inr ⟨rest, ?_,
            by rw [(Text.eq_append_of_splitFirst? hsplit).1]⟩
          intro hcolon
          obtain ⟨tail, rfl⟩ := List.head?_eq_some_iff.mp hcolon
          exact hport tail rfl
  · split at h
    · cases h
    · cases h
      exact .inl rfl

/-- An address that is read has one of the forms, up to what stands behind a
closing bracket. -/
theorem addressForm_of_readAddress {name : Option String} {port : Option Nat}
    (h : readAddress address = .ok (name, port)) :
    AddressForm address (name.getD "").toList port ∨
      ∃ rest, rest ≠ [] ∧ rest.head? ≠ some ':' ∧ port = none ∧
        address = '[' :: ((name.getD "").toList ++ ']' :: rest) := by
  rw [readAddress] at h
  split at h
  · next hempty =>
      cases h
      rw [List.isEmpty_iff.mp hempty]
      exact .inl (.name [])
  · obtain ⟨⟨host, digits⟩, hsplit, h⟩ := Fallible.bind_eq_ok_iff.mp h
    obtain ⟨number, hport, h⟩ := Fallible.bind_eq_ok_iff.mp h
    cases h
    rw [Option.getD_some, String.toList_ofList]
    cases digits with
    | none =>
        cases hport
        rcases eq_of_splitAddress_none hsplit with rfl | ⟨rest, hcolon, rfl⟩
        · exact .inl (.name address)
        · by_cases hrest : rest = []
          · subst hrest
            exact .inl (.bracketed host)
          · exact .inr ⟨rest, hrest, hcolon, rfl, rfl⟩
    | some digits =>
        rw [Option.mapM_some, Fallible.map_eq_ok_iff] at hport
        obtain ⟨value, hvalue, rfl⟩ := hport
        obtain ⟨-, hnumeral⟩ := readPort_eq_ok_iff.mp hvalue
        rcases eq_of_splitAddress_some hsplit with rfl | rfl
        · exact .inl (.namePort host hnumeral)
        · exact .inl (.bracketedPort host hnumeral)

end DataSource

theorem SettingsDraft.getD_given (text : Option String) :
    (given text).getD "" = text.getD "" := by
  cases text with
  | none => rfl
  | some s =>
      by_cases hempty : s = ""
      · subst hempty
        rfl
      · simp [given, Option.filter, hempty]

/-- A name that settings come from has one outline, and the address in it is
that of their host and port, where none is an empty host. Only text behind a
closing bracket that no colon leads is passed over. -/
theorem Settings.address_gives_host_and_port {text : String}
    {settings : Settings} (h : ofDataSource text = .ok settings) :
    (∃! outline : Outline, Text.trim text.toList = outline.form) ∧
      ∀ outline : Outline, Text.trim text.toList = outline.form →
        AddressForm outline.address (settings.host.getD "").toList
            settings.port ∨
          ∃ rest, rest ≠ [] ∧ rest.head? ≠ some ':' ∧ settings.port = none ∧
            outline.address =
              '[' :: ((settings.host.getD "").toList ++ ']' :: rest) := by
  obtain ⟨source, hread, hpairs⟩ := exists_read h
  have hlocated := SettingsDraft.locates_of_withPairs hpairs
  have hhost : settings.host.getD "" = source.host.getD "" := by
    rw [hlocated.host]
    exact SettingsDraft.getD_given source.host
  have hport : settings.port = source.port := hlocated.port
  constructor
  · obtain ⟨outline, hform, -⟩ := DataSource.exists_outline hread
    refine ⟨outline, hform, ?_⟩
    exact fun other hother => Outline.form_injective (hother.symm.trans hform)
  · intro outline hform
    rw [outline.read_form hform] at hread
    rw [hhost, hport]
    exact DataSource.addressForm_of_readAddress (Outline.read_eq_ok hread).2.1

theorem Settings.address_gives_host_and_port_behind_brackets :
    let text := "mysql://root@[::1]:+03306/test"
    let settings : Settings := Preferences.settings {} "mysql"
      { host := some "::1", port := some 3306, username := some "root",
        database := some "test" } []
    ofDataSource text = .ok settings ∧
      (∃! outline : Outline, Text.trim text.toList = outline.form) ∧
        ∀ outline : Outline, Text.trim text.toList = outline.form →
          AddressForm outline.address (settings.host.getD "").toList
              settings.port ∨
            ∃ rest, rest ≠ [] ∧ rest.head? ≠ some ':' ∧ settings.port = none ∧
              outline.address =
                '[' :: ((settings.host.getD "").toList ++ ']' :: rest) := by
  intro text settings
  have hread : ofDataSource text = .ok settings := by decide +kernel
  exact ⟨hread, address_gives_host_and_port hread⟩

theorem addressForm_none_iff {address host : List Char} :
    AddressForm address host none ↔
      address = host ∨ address = '[' :: (host ++ [']']) := by
  constructor
  · rintro (_ | _ | _ | _)
    · exact .inl rfl
    · exact .inr rfl
  · rintro (rfl | rfl)
    · exact .name address
    · exact .bracketed host

/-- What stands behind a closing bracket may be lost. -/
theorem Settings.address_loses_text_behind_bracket :
    let text := "mysql://[::1]x/db"
    let settings : Settings := Preferences.settings {} "mysql"
      { host := some "::1", database := some "db" } []
    ofDataSource text = .ok settings ∧
      ∃ outline : Outline, Text.trim text.toList = outline.form ∧
        outline.address = ['[', ':', ':', '1', ']', 'x'] ∧
        ¬AddressForm outline.address (settings.host.getD "").toList
          settings.port := by
  intro text settings
  let outline : Outline := {
    driver := ['m', 'y', 's', 'q', 'l']
    credentials := none
    address := ['[', ':', ':', '1', ']', 'x']
    database := some ['d', 'b']
    query := none
    driver_ends := by decide
    credentials_free := nofun
    address_free := by simp
    database_free := by decide }
  have hform : Text.trim text.toList = outline.form := by decide
  refine ⟨by decide +kernel, outline, hform, rfl, ?_⟩
  have hport : settings.port = none := rfl
  rw [hport, addressForm_none_iff]
  decide

theorem toLower_of_isWordChar {c : Char} (h : Naming.isWordChar c = true) :
    c.toLower = c :=
  Naming.forall_ascii (P := fun c => Naming.isWordChar c = true → c.toLower = c)
    (by decide +kernel) (Naming.isAscii_of_isWordChar h) h

theorem isUnreserved_of_isWordChar {c : Char} (h : Naming.isWordChar c = true) :
    Text.isUnreserved c = true :=
  Naming.forall_ascii (P := fun c => Naming.isWordChar c = true →
    Text.isUnreserved c = true)
    (by decide +kernel) (Naming.isAscii_of_isWordChar h) h

/-- Small letters and digits name a driver. -/
def DriverName.ofWord (word : String) (hne : word ≠ "")
    (h : ∀ c ∈ word.toList, Naming.isWordChar c = true) : DriverName where
  name := {
    text := word
    free := Text.freeOf_of_isUnreserved (by decide) fun c hmem =>
      .inl (isUnreserved_of_isWordChar (h c hmem)) }
  nonempty := hne
  small := by
    have hchars : word.toList.map Char.toLower = word.toList := by
      conv => rhs; rw [← List.map_id word.toList]
      exact List.map_congr_left fun c hmem => toLower_of_isWordChar (h c hmem)
    rw [Text.toAsciiLower, ← String.toList_inj, String.toList_map, hchars]

/-- The settings of a file: a database, and nobody to ask for it. -/
structure Settings.OfFile (settings : Settings) (path : String) : Prop where
  username : settings.username = none
  password : settings.password = none
  host : settings.host = none
  port : settings.port = none
  database : settings.database = some path

/-- The outline of a file name. -/
def Outline.ofFile (driver : DriverName) (path : List Char)
    (hquery : '?' ∉ path) (hat : '@' ∉ path) : Outline where
  driver := driver.name.text.toList
  credentials := none
  address := []
  database := some path
  query := none
  driver_ends := Text.not_infix_of_notMem (driver.name.free.notMem (by decide))
  credentials_free := nofun
  address_free := fun _ _ => List.not_mem_nil
  database_free := by
    rintro part hpart
    cases hpart
    exact ⟨hquery, hat⟩

theorem Outline.trim_ofFile (driver : DriverName) {path : List Char}
    (htrim : Text.trim path = path) (hquery : '?' ∉ path) (hat : '@' ∉ path) :
    Text.trim (driver.name.text.toList ++ ':' :: '/' :: '/' :: '/' :: path) =
      (ofFile driver path hquery hat).form := by
  have hslashes :
      Text.trimEnd ('/' :: '/' :: '/' :: path) = '/' :: '/' :: '/' :: path := by
    have hlast := Text.trimEnd_append (c := '/') (by decide) ['/', '/'] path
    rw [Text.trimEnd_eq_of_trim_eq htrim] at hlast
    exact hlast
  have hquery : (ofFile driver path hquery hat).form =
      driver.name.text.toList ++ ':' :: '/' :: '/' :: ('/' :: path ++ []) := rfl
  rw [driver.name.free.trim_append (by decide), hslashes, hquery,
    List.append_nil]

/-- No database has an `@` in its name, since credentials would have ended
there. -/
theorem Settings.at_notMem_database {text path : String} {settings : Settings}
    (h : ofDataSource text = .ok settings)
    (hpath : settings.database = some path) : '@' ∉ path.toList := by
  obtain ⟨source, hread, hpairs⟩ := exists_read h
  obtain ⟨outline, -, houtline⟩ := DataSource.exists_outline hread
  have hdatabase : settings.database = source.database :=
    (SettingsDraft.locates_of_withPairs hpairs).database
  rw [hpath, (Outline.read_eq_ok houtline).2.2] at hdatabase
  obtain ⟨hsome, -⟩ := Option.filter_eq_some_iff.mp hdatabase.symm
  obtain ⟨part, hpart, heq⟩ := Option.map_eq_some_iff.mp hsome
  rw [← heq, String.toList_ofList]
  exact (outline.database_free part hpart).2

/-- The data source of a file. -/
def DataSource.ofFile (driver : DriverName) (path : String) : DataSource where
  driver := driver.name.text
  username := none
  password := none
  host := none
  port := none
  database := some path
  pairs := []

theorem DataSource.read_file (driver : DriverName) {path : String}
    (hne : path ≠ "") (htrim : Text.trim path.toList = path.toList)
    (hquery : '?' ∉ path.toList) (hat : '@' ∉ path.toList) :
    DataSource.read (driver.name.text ++ ":///" ++ path) =
      .ok (ofFile driver path) := by
  have htext : (driver.name.text ++ ":///" ++ path).toList =
      driver.name.text.toList ++ ':' :: '/' :: '/' :: '/' :: path.toList := by
    simp
  have hform := Outline.trim_ofFile driver htrim hquery hat
  rw [← htext] at hform
  have hgiven : SettingsDraft.given (some path) = some path := by
    simp [SettingsDraft.given, Option.filter, hne]
  rw [Outline.read_form _ hform, Outline.read, Outline.ofFile]
  simp only [Option.map_some, String.ofList_toList, hgiven]
  rfl

/-- A name without credentials and address leads to its path, if this holds no
separator that ends credentials. With one in it, it leads elsewhere. -/
theorem Settings.ofDataSource_file_iff (driver : DriverName) {path : String}
    (hne : path ≠ "") (htrim : Text.trim path.toList = path.toList)
    (hquery : '?' ∉ path.toList) :
    (∃ settings, ofDataSource (driver.name.text ++ ":///" ++ path) =
      .ok settings ∧
      settings.driver = driver.name.text ∧ settings.OfFile path) ↔
        '@' ∉ path.toList := by
  constructor
  · rintro ⟨settings, hread, -, hfile⟩
    exact at_notMem_database hread hfile.database
  · intro hat
    let endpoint := (DataSource.ofFile driver path).endpoint
    have hacceptable : ({} : Preferences).Acceptable := ⟨by simp, by simp⟩
    have hport : endpoint.port ≠ some 0 := (Option.some_ne_none 0).symm
    have hbuild := hacceptable.build_draft rfl driver.trim_ne_nil hport []
    refine ⟨Preferences.settings {} driver.name.text endpoint [], ?_,
      driver.small, ?_⟩
    · rw [ofDataSource_eq, DataSource.read_file driver hne htrim hquery hat]
      exact hbuild
    · exact ⟨rfl, rfl, rfl, rfl, rfl⟩

theorem Settings.ofDataSource_file_iff_of_separators :
    let driver : DriverName :=
      .ofWord "sqlite3" (by decide) (List.all_eq_true.mp (by decide))
    let path := "/da ta/:[x]&y=%z#.db"
    path ≠ "" ∧ Text.trim path.toList = path.toList ∧ '?' ∉ path.toList ∧
      '@' ∉ path.toList ∧
      ∃ settings, ofDataSource (driver.name.text ++ ":///" ++ path) =
        .ok settings ∧
        settings.driver = driver.name.text ∧ settings.OfFile path := by
  intro driver path
  have hne : path ≠ "" := by decide
  have htrim : Text.trim path.toList = path.toList := by decide
  have hquery : '?' ∉ path.toList := by decide
  have hat : '@' ∉ path.toList := by decide
  exact ⟨hne, htrim, hquery, hat,
    (ofDataSource_file_iff driver hne htrim hquery).mpr hat⟩

/-- The path of a file is cut where credentials would end. -/
theorem Settings.ofDataSource_cuts_file_path :
    ofDataSource "sqlite3:///data/a@b.db" =
      .ok (Preferences.settings {} "sqlite3"
      { username := some "/data/a", host := some "b.db" } []) ∧
      ¬∃ settings, ofDataSource "sqlite3:///data/a@b.db" = .ok settings ∧
        settings.OfFile "data/a@b.db" := by
  have hread : ofDataSource "sqlite3:///data/a@b.db" =
    .ok (Preferences.settings {} "sqlite3"
      { username := some "/data/a", host := some "b.db" } []) := by
    decide +kernel
  refine ⟨hread, ?_⟩
  rintro ⟨settings, hsettings, hfile⟩
  rw [hread] at hsettings
  cases hsettings
  cases hfile.database

end NamedSql
