import NamedSql.Proofs.Settings.Outline
import NamedSql.Proofs.Text.Separators

/-!
Data source names that are written from their parts. The separators of a name
are told apart by what stands before and behind them: no part holds one that
would be found in its place. So a name that was written is read back to its
parts, whichever of them are left out, and the settings are those that its query
gives, with a default for each that it does not.
-/

namespace NamedSql

/-- A text that is written as it is, without blanks and some separators. -/
structure Bare (separators : List Char) where
  text : String
  free : Text.FreeOf separators text.toList

/-- A text that is written in a percent-encoded form. -/
structure Encoded where
  text : String
  form : Bare [':', '/', '?', '@', '&', '=']
  decoded : Text.percentDecode form.text.toList = .ok text.toList

/-- The form in which all but the unreserved characters are escaped. -/
def Encoded.ofText (text : String) : Encoded where
  text
  form := {
    text := String.ofList (Text.percentEncode text.toList)
    free := by
      rw [String.toList_ofList]
      apply Text.freeOf_of_isUnreserved (by decide)
      exact fun c hmem => Text.isUnreserved_of_mem_percentEncode hmem }
  decoded := by rw [String.toList_ofList, Text.percentDecode_percentEncode]

/-- The name of a driver: small letters and digits, say, but no capitals. -/
structure DriverName where
  name : Bare [':']
  nonempty : name.text ≠ ""
  small : Text.toAsciiLower name.text = name.text

/-- A host is written in brackets if it holds colons. -/
inductive Host where
  | name (name : Bare ['/', '?', '@', ':', '['])
  | bracketed (address : Bare ['/', '?', '@', ']'])

structure PortNumber where
  number : Nat
  pos : 0 < number
  lt : number < twoTo 16

/-- The parts that a data source name is written from. A password needs a user,
a port needs a host, and no two pairs have the same key. -/
structure Written where
  driver : DriverName
  account : Option (Encoded × Option Encoded) := none
  address : Option (Host × Option PortNumber) := none
  database : Option (Bare ['?', '@']) := none
  pairs : List (Encoded × Encoded) := []
  distinct : (pairs.map fun pair => pair.1.text).Nodup

def Host.text : Host → String
  | .name host => host.text
  | .bracketed address => address.text

def Host.form : Host → List Char
  | .name host => host.text.toList
  | .bracketed address => '[' :: (address.text.toList ++ [']'])

namespace Written

def accountForm : Encoded × Option Encoded → List Char
  | (user, none) => user.form.text.toList
  | (user, some secret) =>
      user.form.text.toList ++ ':' :: secret.form.text.toList

def credentialsForm : Option (Encoded × Option Encoded) → List Char
  | none => []
  | some account => accountForm account ++ ['@']

def portForm : Option PortNumber → List Char
  | none => []
  | some port => ':' :: Nat.toDigits 10 port.number

def addressForm : Option (Host × Option PortNumber) → List Char
  | none => []
  | some (host, port) => host.form ++ portForm port

def databaseForm : Option (Bare ['?', '@']) → List Char
  | none => []
  | some database => '/' :: database.text.toList

def pairForm : Encoded × Encoded → List Char
  | (key, value) => key.form.text.toList ++ '=' :: value.form.text.toList

def pairsForm (pairs : List (Encoded × Encoded)) : List Char :=
  List.intercalate ['&'] (pairs.map pairForm)

def queryForm : List (Encoded × Encoded) → List Char
  | [] => []
  | pairs => '?' :: pairsForm pairs

/-- What stands behind the driver, up to the query. -/
def mainForm (written : Written) : List Char :=
  credentialsForm written.account ++
    (addressForm written.address ++ databaseForm written.database)

/-- The data source name of the parts. -/
def text (written : Written) : String :=
  String.ofList (written.driver.name.text.toList ++
    ':' :: ('/' :: '/' :: (written.mainForm ++ queryForm written.pairs)))

/-- The pairs of the query, decoded. -/
def entries (written : Written) : List (String × String) :=
  written.pairs.map fun pair => (pair.1.text, pair.2.text)

end Written

theorem DriverName.trim_ne_nil (driver : DriverName) :
    Text.trim driver.name.text.toList ≠ [] := by
  rw [driver.name.free.trim_eq, ne_eq, String.toList_eq_nil_iff]
  exact driver.nonempty

theorem Encoded.decode_form (encoded : Encoded) (part : String) :
    DataSource.decode part encoded.form.text.toList = .ok encoded.text := by
  simp only [DataSource.decode, encoded.decoded, String.ofList_toList]

namespace DataSource

open Written

theorem lastPairs_of_nodup {pairs : List (String × String)}
    (h : (pairs.map Prod.fst).Nodup) : lastPairs pairs = pairs := by
  induction pairs with
  | nil => rfl
  | cons pair rest ih =>
      obtain ⟨hfresh, hrest⟩ := List.nodup_cons.mp h
      have hlast : rest.any (·.1 == pair.1) = false := by
        rw [List.any_eq_false]
        intro later hmem heq
        exact hfresh (beq_iff_eq.mp heq ▸ List.mem_map_of_mem hmem)
      rw [lastPairs, hlast, ih hrest]
      rfl

theorem readPair_pairForm (pair : Encoded × Encoded) :
    readPair (pairForm pair) = .ok (pair.1.text, pair.2.text) := by
  obtain ⟨key, value⟩ := pair
  have hkey : '=' ∉ key.form.text.toList := key.form.free.notMem (by decide)
  simp only [readPair, pairForm, Text.splitFirst?_append _ hkey,
    Encoded.decode_form]
  rfl

theorem readPairs_pairsForm (pairs : List (Encoded × Encoded))
    (hkeys : (pairs.map fun pair => pair.1.text).Nodup) :
    readPairs (pairsForm pairs) =
      .ok (pairs.map fun pair => (pair.1.text, pair.2.text)) := by
  by_cases hnone : pairs = []
  · subst hnone
    rfl
  have hparts :
      ∀ part ∈ pairs.map pairForm, '&' ∉ part ∧ (!part.isEmpty) = true := by
    intro part hmem
    obtain ⟨⟨key, value⟩, -, rfl⟩ := List.mem_map.mp hmem
    have hkey : '&' ∉ key.form.text.toList := key.form.free.notMem (by decide)
    have hvalue : '&' ∉ value.form.text.toList :=
      value.form.free.notMem (by decide)
    simp [pairForm, hkey, hvalue]
  have hsplit : Text.splitEvery '&' (pairsForm pairs) = pairs.map pairForm :=
    Text.splitEvery_intercalate (mt List.map_eq_nil_iff.mp hnone)
      fun part hmem => (hparts part hmem).1
  have hfilter : (pairs.map pairForm).filter (fun part => !part.isEmpty) =
      pairs.map pairForm :=
    List.filter_eq_self.mpr fun part hmem => (hparts part hmem).2
  have hread : (pairs.map pairForm).mapM readPair =
      .ok (pairs.map fun pair => (pair.1.text, pair.2.text)) := by
    rw [Fallible.mapM_eq_ok_iff, List.forall₂_map_left_iff,
      List.forall₂_map_right_iff, List.forall₂_same]
    exact fun pair _ => readPair_pairForm pair
  have hdistinct :
      ((pairs.map fun pair => (pair.1.text, pair.2.text)).map
        Prod.fst).Nodup := by
    rwa [List.map_map]
  rw [readPairs, hsplit, hfilter, hread]
  exact congrArg Except.ok (lastPairs_of_nodup hdistinct)

theorem readCredentials_accountForm (account : Encoded × Option Encoded) :
    readCredentials (accountForm account) =
      .ok (account.1.text, account.2.map Encoded.text) := by
  obtain ⟨user, secret⟩ := account
  have huser : ':' ∉ user.form.text.toList := user.form.free.notMem (by decide)
  cases secret with
  | none =>
      have hnone := Text.splitFirst?_eq_none_iff.mpr huser
      simp only [readCredentials, accountForm, hnone, Encoded.decode_form]
      rfl
  | some secret =>
      simp only [readCredentials, accountForm, Text.splitFirst?_append _ huser,
        Encoded.decode_form]
      rfl

theorem mapM_readCredentials (account : Option (Encoded × Option Encoded)) :
    (account.map accountForm).mapM readCredentials =
      .ok (account.map fun account =>
        (account.1.text, account.2.map Encoded.text)) := by
  cases account with
  | none => rfl
  | some account =>
      rw [Option.map_some, Option.mapM_some, readCredentials_accountForm]
      rfl

theorem readPort_toDigits (port : PortNumber) :
    readPort (Nat.toDigits 10 port.number) = .ok port.number := by
  have hread : portRange.read? (Nat.toDigits 10 port.number) =
      some (port.number : Int) :=
    IntegerRange.read?_unsigned_eq_some_iff.mpr
      ⟨port.number, port.lt, numeral_toDigits port.number, rfl⟩
  rw [readPort, hread]
  rfl

theorem colon_notMem_toDigits (n : Nat) : ':' ∉ Nat.toDigits 10 n := by
  have hfree : Text.FreeOf [':'] (Nat.toDigits 10 n) :=
    Text.freeOf_toDigits (by decide) n
  exact hfree.notMem List.mem_cons_self

/-- A host without brackets does not open with one, so that the last colon
starts the port. -/
theorem splitAddress_of_name (name : Bare ['/', '?', '@', ':', '['])
    (port : Option PortNumber) :
    splitAddress (name.text.toList ++ portForm port) =
      .ok (name.text.toList,
        port.map fun port => Nat.toDigits 10 port.number) := by
  have hcolon : ':' ∉ name.text.toList := name.free.notMem (by decide)
  have hbracket : ∀ rest, name.text.toList ++ portForm port ≠ '[' :: rest := by
    intro rest heq
    have hname : '[' ∉ name.text.toList := name.free.notMem (by decide)
    cases hlist : name.text.toList with
    | nil =>
        rw [hlist] at heq
        cases port <;> simp [portForm] at heq
    | cons c others =>
        rw [hlist, List.cons_append] at heq
        rw [hlist] at hname
        exact hname (List.mem_cons.mpr (.inl (List.cons.inj heq).1.symm))
  rw [splitAddress.eq_def]
  split
  · next rest heq => exact absurd heq (hbracket rest)
  · cases port with
    | none =>
        rw [portForm, List.append_nil, Text.splitLast?_eq_none_iff.mpr hcolon];
          rfl
    | some port =>
        rw [portForm,
          Text.splitLast?_append _ (colon_notMem_toDigits port.number)]; rfl

theorem splitAddress_of_bracketed (address : Bare ['/', '?', '@', ']'])
    (port : Option PortNumber) :
    splitAddress ('[' :: (address.text.toList ++ ']' :: portForm port)) =
      .ok (address.text.toList,
        port.map fun port => Nat.toDigits 10 port.number) := by
  have hbracket : ']' ∉ address.text.toList := address.free.notMem (by decide)
  rw [splitAddress, Text.splitFirst?_append _ hbracket]
  cases port <;> rfl

theorem splitAddress_form (host : Host) (port : Option PortNumber) :
    splitAddress (host.form ++ portForm port) =
      .ok (host.text.toList,
        port.map fun port => Nat.toDigits 10 port.number) := by
  cases host with
  | name name => exact splitAddress_of_name name port
  | bracketed address =>
      rw [Host.form, List.cons_append, List.append_assoc]
      exact splitAddress_of_bracketed address port

/-- Nothing at all stands for a host without a name and a port. -/
theorem eq_empty_of_addressForm {host : Host} {port : Option PortNumber}
    (h : addressForm (some (host, port)) = []) :
    host.text = "" ∧ port = none := by
  obtain ⟨hhost, hport⟩ := List.append_eq_nil_iff.mp h
  cases host with
  | name name =>
      cases port with
      | none => exact ⟨String.toList_eq_nil_iff.mp hhost, rfl⟩
      | some port => cases hport
  | bracketed address => cases hhost

theorem readAddress_addressForm (address : Option (Host × Option PortNumber)) :
    ∃ host, readAddress (addressForm address) =
        .ok (host, address.bind fun address =>
          address.2.map PortNumber.number) ∧
      SettingsDraft.given host =
        SettingsDraft.given (address.map fun address => address.1.text) := by
  cases address with
  | none => exact ⟨none, rfl, rfl⟩
  | some address =>
      obtain ⟨host, port⟩ := address
      by_cases hempty : addressForm (some (host, port)) = []
      · obtain ⟨htext, rfl⟩ := eq_empty_of_addressForm hempty
        refine ⟨none, ?_, ?_⟩
        · rw [hempty]
          rfl
        · rw [Option.map_some, htext]
          rfl
      · refine ⟨some host.text, ?_, rfl⟩
        have hsplit := splitAddress_form host port
        have hnonempty : (addressForm (some (host, port))).isEmpty = false := by
          simpa using hempty
        have hport :
            (port.map fun port => Nat.toDigits 10 port.number).mapM readPort =
              .ok (port.map PortNumber.number) := by
          cases port with
          | none => rfl
          | some port =>
              rw [Option.map_some, Option.mapM_some, readPort_toDigits]
              rfl
        rw [readAddress, hnonempty, addressForm, hsplit]
        change (Option.mapM readPort _ >>= _) = _
        rw [hport, String.ofList_toList]
        rfl

end DataSource

namespace Written

theorem freeOf_portForm (port : Option PortNumber) :
    Text.FreeOf ['/', '?', '@'] (portForm port) := by
  cases port with
  | none => exact .nil
  | some port =>
      exact .cons (by decide) (Text.freeOf_toDigits (by decide) port.number)

theorem freeOf_host (host : Host) : Text.FreeOf ['/', '?', '@'] host.form := by
  cases host with
  | name name => exact name.free.mono (by decide)
  | bracketed address =>
      exact .cons (by decide)
        ((address.free.mono (by decide)).append (.cons (by decide) .nil))

theorem freeOf_addressForm (address : Option (Host × Option PortNumber)) :
    Text.FreeOf ['/', '?', '@'] (addressForm address) := by
  cases address with
  | none => exact .nil
  | some address =>
      exact (freeOf_host address.1).append (freeOf_portForm address.2)

theorem freeOf_databaseForm (database : Option (Bare ['?', '@'])) :
    Text.FreeOf ['?', '@'] (databaseForm database) := by
  cases database with
  | none => exact .nil
  | some database => exact .cons (by decide) database.free

theorem freeOf_accountForm (account : Encoded × Option Encoded) :
    Text.FreeOf ['?'] (accountForm account) := by
  obtain ⟨user, secret⟩ := account
  have huser : Text.FreeOf ['?'] user.form.text.toList :=
    user.form.free.mono (by decide)
  cases secret with
  | none => exact huser
  | some secret =>
      exact huser.append (.cons (by decide) (secret.form.free.mono (by decide)))

theorem freeOf_credentialsForm (account : Option (Encoded × Option Encoded)) :
    Text.FreeOf ['?'] (credentialsForm account) := by
  cases account with
  | none => exact .nil
  | some account =>
      exact (freeOf_accountForm account).append (.cons (by decide) .nil)

theorem freeOf_location (written : Written) :
    Text.FreeOf ['?', '@']
      (addressForm written.address ++ databaseForm written.database) :=
  ((freeOf_addressForm _).mono (by decide)).append (freeOf_databaseForm _)

theorem freeOf_mainForm (written : Written) :
    Text.FreeOf ['?'] written.mainForm :=
  (freeOf_credentialsForm _).append ((freeOf_location written).mono (by decide))

theorem freeOf_pairsForm (pairs : List (Encoded × Encoded)) :
    Text.FreeOf [] (pairsForm pairs) := by
  induction pairs with
  | nil => exact .nil
  | cons pair rest ih =>
      have hpair : Text.FreeOf [] (pairForm pair) :=
        (pair.1.form.free.mono (List.nil_subset _)).append
          (.cons (by decide) (pair.2.form.free.mono (List.nil_subset _)))
      cases rest with
      | nil => rwa [pairsForm, List.map_singleton, List.intercalate_singleton]
      | cons next others =>
          rw [pairsForm, List.map_cons, List.map_cons,
            List.intercalate_cons_cons, List.append_assoc]
          exact hpair.append (.cons (by decide) ih)

theorem freeOf_queryForm (pairs : List (Encoded × Encoded)) :
    Text.FreeOf [] (queryForm pairs) := by
  cases pairs with
  | nil => exact .nil
  | cons pair rest => exact .cons (by decide) (freeOf_pairsForm (pair :: rest))

theorem freeOf_text (written : Written) :
    Text.FreeOf [] written.text.toList := by
  have hdriver : Text.FreeOf [] written.driver.name.text.toList :=
    written.driver.name.free.mono (List.nil_subset _)
  have hmain : Text.FreeOf [] written.mainForm :=
    (freeOf_mainForm written).mono (List.nil_subset _)
  rw [text, String.toList_ofList]
  exact hdriver.append (.cons (by decide) (.cons (by decide) (.cons (by decide)
    (hmain.append (freeOf_queryForm written.pairs)))))

theorem credentialsForm_eq (account : Option (Encoded × Option Encoded)) :
    credentialsForm account = Text.withEnd '@' (account.map accountForm) := by
  cases account <;> rfl

theorem databaseForm_eq (database : Option (Bare ['?', '@'])) :
    databaseForm database =
      Text.withLead '/' (database.map fun part => part.text.toList) := by
  cases database <;> rfl

/-- What the query opens with a question mark, where there are pairs. -/
def queryPart : List (Encoded × Encoded) → Option (List Char)
  | [] => none
  | pairs => some (pairsForm pairs)

theorem queryForm_eq (pairs : List (Encoded × Encoded)) :
    queryForm pairs = Text.withLead '?' (queryPart pairs) := by
  cases pairs <;> rfl

theorem queryPart_getD (pairs : List (Encoded × Encoded)) :
    (queryPart pairs).getD [] = pairsForm pairs := by
  cases pairs <;> rfl

/-- No part holds a separator that would be found in its place. -/
def outline (written : Written) : Outline where
  driver := written.driver.name.text.toList
  credentials := written.account.map accountForm
  address := addressForm written.address
  database := written.database.map fun part => part.text.toList
  query := queryPart written.pairs
  driver_ends :=
    Text.not_infix_of_notMem (written.driver.name.free.notMem (by decide))
  credentials_free := by
    rintro part hpart
    obtain ⟨account, -, rfl⟩ := Option.map_eq_some_iff.mp hpart
    exact (freeOf_accountForm account).notMem (by decide)
  address_free := by
    have hfree : Text.FreeOf ['?', '@', '/'] (addressForm written.address) :=
      (freeOf_addressForm _).mono (by decide)
    exact fun c hc => hfree.notMem hc
  database_free := by
    rintro part hpart
    obtain ⟨database, -, rfl⟩ := Option.map_eq_some_iff.mp hpart
    exact ⟨database.free.notMem (by decide), database.free.notMem (by decide)⟩

theorem trim_text (written : Written) :
    Text.trim written.text.toList = written.outline.form := by
  rw [(freeOf_text written).trim_eq, text, String.toList_ofList, mainForm,
    credentialsForm_eq, databaseForm_eq, queryForm_eq]
  rfl

/-- A name is read back to its parts, where an empty host without a port is read
as none. -/
theorem read_text (written : Written) :
    ∃ host, DataSource.read written.text = .ok {
        driver := written.driver.name.text
        username := written.account.map fun account => account.1.text
        password :=
          written.account.bind fun account => account.2.map Encoded.text
        host
        port :=
          written.address.bind fun address => address.2.map PortNumber.number
        database := SettingsDraft.given (written.database.map Bare.text)
        pairs := written.entries } ∧
      SettingsDraft.given host =
        SettingsDraft.given (written.address.map fun address =>
          address.1.text) := by
  obtain ⟨host, haddress, hgiven⟩ :=
    DataSource.readAddress_addressForm written.address
  refine ⟨host, ?_, hgiven⟩
  have hpairs : DataSource.readPairs (written.outline.query.getD []) =
      .ok written.entries := by
    rw [outline, queryPart_getD]
    exact DataSource.readPairs_pairsForm written.pairs written.distinct
  have huser : written.outline.credentials.mapM DataSource.readCredentials =
      .ok (written.account.map fun account =>
        (account.1.text, account.2.map Encoded.text)) :=
    DataSource.mapM_readCredentials written.account
  have hread : DataSource.readAddress written.outline.address = _ := haddress
  rw [Outline.read_form _ written.trim_text, Outline.read, hpairs, huser, hread]
  refine congrArg Except.ok ?_
  simp [outline, Option.map_map, Option.bind_map, Function.comp_def]

/-- A name is read back to the parts that it was written from and to the
settings that its query gives. A part or a setting that was left out has its
default, and the pairs of all other keys are the options. -/
theorem ofDataSource_text (written : Written) (preferences : Preferences)
    (hgiven : preferences.GivenBy written.entries)
    (hacceptable : preferences.Acceptable) :
    ∃ options, Settings.ofDataSource written.text = .ok {
        driver := written.driver.name.text
        host :=
          SettingsDraft.given (written.address.map fun address =>
            address.1.text)
        port :=
          written.address.bind fun address => address.2.map PortNumber.number
        username :=
          SettingsDraft.given (written.account.map fun account =>
            account.1.text)
        password :=
          written.account.bind fun account => account.2.map Encoded.text
        database := SettingsDraft.given (written.database.map Bare.text)
        debug := preferences.debug.getD false
        maxOpen := preferences.maxOpen.getD 0
        maxIdle := preferences.idleLimit
        lifetime := preferences.lifetime
        naming := preferences.naming.getD .snake
        recordExecutions := preferences.recordExecutions.getD false
        queueSize := preferences.queueSize.getD SettingsDraft.defaultQueueSize
        options } ∧
      Keyed.Ascending options ∧
      ∀ key, options.lookup key =
        if key ∈ interpretedKeys then none else written.entries.lookup key := by
  obtain ⟨host, hread, hhost⟩ := written.read_text
  have hkeys : (written.entries.map Prod.fst).Nodup := by
    rw [entries, List.map_map]
    exact written.distinct
  obtain ⟨options, hdraft, hascending, hlookup⟩ :=
    hgiven.ofDataSource_eq hread hkeys
  refine ⟨options, ?_, hascending, hlookup⟩
  have hport :
      (written.address.bind fun address => address.2.map PortNumber.number) ≠
        some 0 := by
    intro hzero
    obtain ⟨address, -, hnumber⟩ := Option.bind_eq_some_iff.mp hzero
    obtain ⟨port, -, hport⟩ := Option.map_eq_some_iff.mp hnumber
    exact Nat.ne_of_gt port.pos hport
  rw [hdraft, hacceptable.build_draft rfl written.driver.trim_ne_nil hport,
    Preferences.settings, written.driver.small]
  simp only [DataSource.endpoint, hhost]

/-- A name with every part, whose query gives two preferences and an option. -/
def full : Written where
  driver := ⟨⟨"postgres", by decide⟩, by decide, by decide +kernel⟩
  account := some (.ofText "app", some (.ofText "s@cret"))
  address :=
    some (.bracketed ⟨"::1", by decide⟩, some ⟨5432, by decide, by decide⟩)
  database := some ⟨"shop", by decide⟩
  pairs :=
    [(.ofText "debug", .ofText "Yes"), (.ofText "ssl mode", .ofText "off"),
      (.ofText "max_open_conns", .ofText "1")]
  distinct := by decide

theorem ofDataSource_text_of_full :
    let preferences : Preferences := { debug := some true, maxOpen := some 1 }
    full.text = "postgres://app:s%40cret@[::1]:5432/shop" ++
        "?debug=Yes&ssl%20mode=off&max_open_conns=1" ∧
      preferences.GivenBy full.entries ∧ preferences.Acceptable ∧
      ∃ options, Settings.ofDataSource full.text = .ok {
          driver := "postgres", host := some "::1", port := some 5432,
          username := some "app",
          password := some "s@cret", database := some "shop", debug := true,
          maxOpen := 1,
          maxIdle := 1, lifetime := none, naming := .snake,
          recordExecutions := false,
          queueSize := 1024, options } ∧
        Keyed.Ascending options ∧
        ∀ key, options.lookup key =
          if key ∈ interpretedKeys then none else full.entries.lookup key := by
  intro preferences
  have hyes : Text.toAsciiLower "Yes" ∈ flagWords true := by decide +kernel
  have hone : SpellsCount "1" 1 := ⟨by decide, numeral_toDigits 1⟩
  have hgiven : preferences.GivenBy full.entries := {
    debug := .some hyes
    maxOpen := .some hone
    maxIdle := .none
    lifetime := .none
    naming := .none
    recordExecutions := .none
    queueSize := .none }
  have hacceptable : preferences.Acceptable := ⟨nofun, nofun⟩
  refine ⟨by decide +kernel, hgiven, hacceptable, ?_⟩
  exact ofDataSource_text full preferences hgiven hacceptable

end Written

end NamedSql
