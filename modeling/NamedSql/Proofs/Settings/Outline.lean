import NamedSql.Proofs.Settings.Applying
import NamedSql.Proofs.Text.Cutting

/-!
The outline of a data source name: its parts as they stand in the text. Every
name that is read has one, and what it is read to is what its parts are read to,
each by itself.
-/

namespace NamedSql

/-- The parts of a data source name, none of them decoded. The driver ends at
the first mark, the query starts at the first question mark, credentials end at
the last `@` before it, and the address ends at the first slash behind them. -/
structure Outline where
  driver : List Char
  credentials : Option (List Char)
  address : List Char
  database : Option (List Char)
  query : Option (List Char)
  driver_ends : ¬[':', '/', '/'] <:+: driver ++ [':', '/']
  credentials_free : ∀ part ∈ credentials, '?' ∉ part
  address_free : ∀ c ∈ ['?', '@', '/'], c ∉ address
  database_free : ∀ part ∈ database, '?' ∉ part ∧ '@' ∉ part

namespace Outline

/-- What stands behind the credentials, up to the query. -/
def location (outline : Outline) : List Char :=
  outline.address ++ Text.withLead '/' outline.database

/-- What stands behind the driver, up to the query. -/
def main (outline : Outline) : List Char :=
  Text.withEnd '@' outline.credentials ++ outline.location

/-- The whole name. -/
def form (outline : Outline) : List Char :=
  outline.driver ++
    ([':', '/', '/'] ++ (outline.main ++ Text.withLead '?' outline.query))

/-- What the parts are read to. -/
def read (outline : Outline) : Except DataSourceError DataSource := do
  let pairs ← DataSource.readPairs (outline.query.getD [])
  let user ← outline.credentials.mapM DataSource.readCredentials
  let (host, port) ← DataSource.readAddress outline.address
  return {
    driver := String.ofList outline.driver
    username := user.map Prod.fst
    password := user.bind Prod.snd
    host
    port
    database := SettingsDraft.given (outline.database.map String.ofList)
    pairs }

theorem at_notMem_location (outline : Outline) : '@' ∉ outline.location := by
  rw [location, List.mem_append, not_or]
  refine ⟨outline.address_free '@' (by decide), ?_⟩
  cases hdatabase : outline.database with
  | none => exact List.not_mem_nil
  | some part =>
      have hpart := (outline.database_free part hdatabase).2
      rw [Text.withLead, List.mem_cons, not_or]
      exact ⟨by decide, hpart⟩

theorem question_notMem_main (outline : Outline) : '?' ∉ outline.main := by
  rw [main, location, List.mem_append, List.mem_append, not_or, not_or]
  refine ⟨?_, outline.address_free '?' (by decide), ?_⟩
  · cases hcredentials : outline.credentials with
    | none => exact List.not_mem_nil
    | some part =>
        have hpart := outline.credentials_free part hcredentials
        rw [Text.withEnd, List.mem_append, List.mem_singleton, not_or]
        exact ⟨hpart, by decide⟩
  · cases hdatabase : outline.database with
    | none => exact List.not_mem_nil
    | some part =>
        have hpart := (outline.database_free part hdatabase).1
        rw [Text.withLead, List.mem_cons, not_or]
        exact ⟨by decide, hpart⟩

/-- A text has one outline at most. -/
theorem form_injective {outline other : Outline}
    (h : outline.form = other.form) : outline = other := by
  have hsplit := congrArg (Text.splitAtMark? [':', '/', '/']) h
  rw [form, form,
    Text.splitAtMark?_of_not_infix (by decide) outline.driver_ends,
    Text.splitAtMark?_of_not_infix (by decide) other.driver_ends] at hsplit
  obtain ⟨hdriver, hrest⟩ := Prod.mk.inj (Option.some.inj hsplit)
  obtain ⟨hmain, hquery⟩ :=
    (Text.append_withLead_inj outline.question_notMem_main
      other.question_notMem_main).mp hrest
  obtain ⟨hcredentials, hlocation⟩ :=
    (Text.withEnd_append_inj outline.at_notMem_location
      other.at_notMem_location).mp hmain
  obtain ⟨haddress, hdatabase⟩ :=
    (Text.append_withLead_inj (outline.address_free '/' (by decide))
      (other.address_free '/' (by decide))).mp hlocation
  cases outline
  cases other
  congr

theorem splitLocation_location (outline : Outline) :
    DataSource.splitLocation outline.location =
      (outline.address,
        SettingsDraft.given (outline.database.map String.ofList)) := by
  have hslash : '/' ∉ outline.address := outline.address_free '/' (by decide)
  rw [DataSource.splitLocation, location, Text.splitFirst?_withLead hslash]
  cases outline.database with
  | none =>
      rw [Text.withLead, List.append_nil]
      rfl
  | some part =>
      cases part with
      | nil => rfl
      | cons c rest => simp [SettingsDraft.given, Option.filter]

/-- A name is read part by part. -/
theorem read_form (outline : Outline) {text : String}
    (h : Text.trim text.toList = outline.form) :
    DataSource.read text = outline.read := by
  have hdriver := Text.splitAtMark?_of_not_infix (by decide) outline.driver_ends
    (outline.main ++ Text.withLead '?' outline.query)
  have hquery :
      (Text.splitFirst? '?'
        (outline.main ++ Text.withLead '?' outline.query)).getD
      (outline.main ++ Text.withLead '?' outline.query, []) =
        (outline.main, outline.query.getD []) := by
    rw [Text.splitFirst?_withLead outline.question_notMem_main]
    cases outline.query with
    | none => rw [Text.withLead, List.append_nil]; rfl
    | some part => rfl
  have hcredentials :=
    Text.splitLast?_withEnd outline.credentials outline.at_notMem_location
  rw [DataSource.read, h, form, hdriver]
  simp only [hquery]
  rw [main, hcredentials, read]
  cases outline.credentials with
  | none =>
      simp only [Option.map_none, Text.withEnd, List.nil_append,
        splitLocation_location]
  | some part => simp only [Option.map_some, splitLocation_location]

/-- What the parts are read to stands in their places. -/
theorem read_eq_ok {outline : Outline} {source : DataSource}
    (h : outline.read = .ok source) :
    DataSource.readPairs (outline.query.getD []) = .ok source.pairs ∧
      DataSource.readAddress outline.address = .ok (source.host, source.port) ∧
      source.database =
        SettingsDraft.given (outline.database.map String.ofList) := by
  obtain ⟨pairs, hpairs, h⟩ := Fallible.bind_eq_ok_iff.mp h
  obtain ⟨user, -, h⟩ := Fallible.bind_eq_ok_iff.mp h
  obtain ⟨⟨host, port⟩, haddress, h⟩ := Fallible.bind_eq_ok_iff.mp h
  cases h
  exact ⟨hpairs, haddress, rfl⟩

end Outline

theorem exists_location {location : List Char} (hquery : '?' ∉ location)
    (hat : '@' ∉ location) :
    ∃ address database, location = address ++ Text.withLead '/' database ∧
      (∀ c ∈ ['?', '@', '/'], c ∉ address) ∧ ∀ part ∈ database,
        '?' ∉ part ∧ '@' ∉ part := by
  obtain ⟨address, database, rfl, hslash⟩ := Text.exists_withLead '/' location
  rw [List.mem_append, not_or] at hquery hat
  refine ⟨address, database, rfl, ?_, ?_⟩
  · intro c hc
    simp only [List.mem_cons, List.not_mem_nil, or_false] at hc
    rcases hc with rfl | rfl | rfl
    · exact hquery.1
    · exact hat.1
    · exact hslash
  · rintro part rfl
    exact ⟨fun hmem => hquery.2 (List.mem_cons_of_mem _ hmem),
      fun hmem => hat.2 (List.mem_cons_of_mem _ hmem)⟩

/-- A text that is read as a data source name has an outline. -/
theorem DataSource.exists_outline {text : String} {source : DataSource}
    (h : DataSource.read text = .ok source) :
    ∃ outline : Outline,
      Text.trim text.toList = outline.form ∧ outline.read = .ok source := by
  cases hsplit : Text.splitAtMark? [':', '/', '/'] (Text.trim text.toList) with
  | none =>
      rw [DataSource.read, hsplit] at h
      cases h
  | some parts =>
      obtain ⟨driver, rest⟩ := parts
      obtain ⟨htext, hdriver⟩ :=
        Text.eq_append_of_splitAtMark? (by decide) hsplit
      obtain ⟨main, query, rfl, hmain⟩ := Text.exists_withLead '?' rest
      obtain ⟨credentials, location, rfl, hlocation⟩ :=
        Text.exists_withEnd '@' main
      rw [List.mem_append, not_or] at hmain
      obtain ⟨address, database, rfl, haddress, hdatabase⟩ :=
        exists_location hmain.2 hlocation
      let outline : Outline := {
        driver, credentials, address, database, query
        driver_ends := hdriver
        credentials_free := by
          rintro part rfl
          exact fun hmem => hmain.1 (List.mem_append_left _ hmem)
        address_free := haddress
        database_free := hdatabase }
      have hform : Text.trim text.toList = outline.form := htext
      exact ⟨outline, hform, (outline.read_form hform).symm.trans h⟩

end NamedSql
