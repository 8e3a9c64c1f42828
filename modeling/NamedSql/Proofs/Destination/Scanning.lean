import NamedSql.Destination
import NamedSql.Proofs.Fallible

/-!
What reading a row makes of a destination. The columns of a row are assigned in
order, so a field of a record ends up with the last value that goes to it. A
fault keeps what was assigned in front of it and leaves the rest as it was.
-/

namespace NamedSql

theorem Slot.assign_eq_ok_iff {slot filled : Slot} {v : Value} :
    slot.assign v = .ok filled ↔
      filled.target = slot.target ∧
        slot.target.convert v = .ok filled.content := by
  rw [assign, Fallible.map_eq_ok_iff]
  constructor
  · rintro ⟨content, hcontent, rfl⟩
    exact ⟨rfl, hcontent⟩
  · rintro ⟨htarget, hcontent⟩
    exact ⟨filled.content, hcontent, by rw [← htarget]⟩

theorem Slot.assign_eq_error_iff {slot : Slot} {v : Value}
    {e : ConversionError} :
    slot.assign v = .error e ↔ slot.target.convert v = .error e :=
  Fallible.map_eq_error_iff

namespace Destination

/-- What values that were assigned in turn make of a slot: it holds the
conversion of the last one, or what it has held before if there is none. -/
def Holds (values : List Value) (before after : Slot) : Prop :=
  after.target = before.target ∧
    match values.getLast? with
    | none => after.content = before.content
    | some v => before.target.convert v = .ok after.content

theorem Holds.refl (slot : Slot) : Holds [] slot slot :=
  ⟨rfl, rfl⟩

theorem holds_singleton_iff {slot filled : Slot} {v : Value} :
    Holds [v] slot filled ↔ slot.assign v = .ok filled :=
  Slot.assign_eq_ok_iff.symm

/-- A later value hides the earlier ones. -/
theorem Holds.append {earlier later : List Value} {first second third : Slot}
    (h : Holds earlier first second) (hlater : Holds later second third) :
    Holds (earlier ++ later) first third := by
  obtain ⟨htarget, hcontent⟩ := h
  obtain ⟨htarget', hcontent'⟩ := hlater
  refine ⟨htarget'.trans htarget, ?_⟩
  rw [List.getLast?_append]
  cases hlast : later.getLast? with
  | none =>
      rw [hlast] at hcontent'
      simp only [Option.none_or]
      cases hfirst : earlier.getLast? with
      | none =>
          rw [hfirst] at hcontent
          exact hcontent'.trans hcontent
      | some v =>
          rw [hfirst] at hcontent
          exact hcontent' ▸ hcontent
  | some v =>
      rw [hlast, htarget] at hcontent'
      exact hcontent'

section Record

variable (rename : String → String) (columns : List String)

/-- The field that the column at a place of the row goes to. -/
def fieldAt (place : Nat) : String :=
  rename (columnName columns place)

/-- What the field of a name takes, if there is one. -/
def target? (fields : List (String × Slot)) (name : String) : Option Target :=
  (fields.lookup name).map Slot.target

/-- A value with its place in the row converts to what its field takes, or there
is no such field. -/
def Converts (fields : List (String × Slot)) (placed : Value × Nat) : Prop :=
  ∀ target, target? fields (fieldAt rename columns placed.2) = some target →
    ∃ content, target.convert placed.1 = .ok content

/-- The values that go to the field of a name, in order. -/
def valuesFor (name : String) (row : List (Value × Nat)) : List Value :=
  (row.filter fun placed => fieldAt rename columns placed.2 = name).map Prod.fst

/-- What a row makes of the fields of a record. -/
structure Filled (row : List (Value × Nat))
    (before after : List (String × Slot)) : Prop where
  names : after.map Prod.fst = before.map Prod.fst
  slots : ∀ name, Option.Rel (Holds (valuesFor rename columns name row))
    (before.lookup name) (after.lookup name)

/-- How the columns of a row are assigned: all of them, or those in front of the
first one that does not convert. -/
inductive Assigns (row : List (Value × Nat)) (before : List (String × Slot)) :
    Except ResultError Unit → List (String × Slot) → Prop
  | complete {after : List (String × Slot)}
      (hconverts : ∀ placed ∈ row, Converts rename columns before placed)
      (hfilled : Filled rename columns row before after) :
      Assigns row before (.ok ()) after
  | broken {after : List (String × Slot)} (front rest : List (Value × Nat))
      {v : Value} {place : Nat} {target : Target} {e : ConversionError}
      (hrow : row = front ++ (v, place) :: rest)
      (hconverts : ∀ placed ∈ front, Converts rename columns before placed)
      (htarget : target? before (fieldAt rename columns place) = some target)
      (hfailed : target.convert v = .error e)
      (hfilled : Filled rename columns front before after) :
      Assigns row before (.error (.scan (columnName columns place) e)) after

variable {rename columns} {before middle after : List (String × Slot)}
  {front row : List (Value × Nat)} {v : Value} {place : Nat}

theorem valuesFor_append (name : String) (row rest : List (Value × Nat)) :
    valuesFor rename columns name (row ++ rest) =
      valuesFor rename columns name row ++
        valuesFor rename columns name rest := by
  rw [valuesFor, List.filter_append, List.map_append]
  rfl

theorem valuesFor_self (v : Value) (place : Nat) :
    valuesFor rename columns (fieldAt rename columns place) [(v, place)] =
      [v] := by
  simp [valuesFor]

theorem valuesFor_of_ne {name : String} (v : Value)
    (h : name ≠ fieldAt rename columns place) :
    valuesFor rename columns name [(v, place)] = [] := by
  simp [valuesFor, h.symm]

/-- What no value goes to stays as it is. -/
theorem rel_holds_nil (found : Option Slot) :
    Option.Rel (Holds []) found found := by
  cases found with
  | none => exact .none
  | some slot => exact .some (.refl slot)

theorem Filled.refl (fields : List (String × Slot)) :
    Filled rename columns [] fields fields :=
  ⟨rfl, fun name => rel_holds_nil (fields.lookup name)⟩

/-- The first field of a name hides the later ones. -/
theorem Filled.cons {field : String} {slot filled : Slot}
    (hfirst : Holds (valuesFor rename columns field row) slot filled)
    (hnames : after.map Prod.fst = before.map Prod.fst)
    (hslots : ∀ name, name ≠ field →
      Option.Rel (Holds (valuesFor rename columns name row))
      (before.lookup name) (after.lookup name)) :
    Filled rename columns row ((field, slot) :: before)
      ((field, filled) :: after) where
  names := by rw [List.map_cons, List.map_cons, hnames]
  slots name := by
    rw [List.lookup_cons, List.lookup_cons]
    by_cases hname : name = field
    · subst hname
      rw [beq_self_eq_true]
      exact .some hfirst
    · rw [beq_false_of_ne hname]
      exact hslots name hname

theorem Filled.append (h : Filled rename columns front before middle)
    (hrow : Filled rename columns row middle after) :
    Filled rename columns (front ++ row) before after where
  names := hrow.names.trans h.names
  slots name := by
    rw [valuesFor_append]
    match before.lookup name, middle.lookup name, after.lookup name,
      h.slots name, hrow.slots name with
    | _, _, _, .none, .none => exact .none
    | _, _, _, .some hheld, .some hlater => exact .some (hheld.append hlater)

/-- Assignments keep what the fields take. -/
theorem Filled.target?_eq (h : Filled rename columns row before after)
    (name : String) : target? after name = target? before name := by
  rw [target?, target?]
  match before.lookup name, after.lookup name, h.slots name with
  | _, _, .none => rfl
  | _, _, .some hheld => exact congrArg some hheld.1

theorem Filled.converts_iff (h : Filled rename columns row before after)
    {placed : Value × Nat} :
    Converts rename columns after placed ↔
      Converts rename columns before placed := by
  rw [Converts, Converts, h.target?_eq]

theorem target?_cons_self (field : String) (slot : Slot)
    (fields : List (String × Slot)) :
    target? ((field, slot) :: fields) field = some slot.target := by
  rw [target?, List.lookup_cons, beq_self_eq_true]
  rfl

theorem target?_cons_of_ne {name field : String} (slot : Slot)
    (fields : List (String × Slot)) (h : name ≠ field) :
    target? ((field, slot) :: fields) name = target? fields name := by
  rw [target?, List.lookup_cons, beq_false_of_ne h]
  rfl

/-- Assigning a value that converts fills the field of the name, if there is
one, and no other. -/
theorem exists_assignField
    (hconverts : Converts rename columns before (v, place)) :
    ∃ after, assignField (fieldAt rename columns place) v before = .ok after ∧
      Filled rename columns [(v, place)] before after := by
  induction before with
  | nil => exact ⟨[], rfl, ⟨rfl, fun name => .none⟩⟩
  | cons entry rest ih =>
      obtain ⟨field, slot⟩ := entry
      rw [assignField]
      split
      · next heq =>
        obtain ⟨content, hcontent⟩ := hconverts slot.target (by
          rw [← heq]
          exact target?_cons_self field slot rest)
        have hassigned : slot.assign v = .ok { slot with content } :=
          Slot.assign_eq_ok_iff.mpr ⟨rfl, hcontent⟩
        refine ⟨_, by rw [hassigned]; rfl,
          Filled.cons ?_ rfl fun name hname => ?_⟩
        · rw [heq, valuesFor_self]
          exact holds_singleton_iff.mpr hassigned
        · rw [valuesFor_of_ne v (heq ▸ hname)]
          exact rel_holds_nil _
      · next hne =>
        have hrest : Converts rename columns rest (v, place) :=
          fun target htarget =>
            hconverts target
              ((target?_cons_of_ne slot rest (Ne.symm hne)).trans htarget)
        obtain ⟨after, hafter, hfilled⟩ := ih hrest
        refine ⟨_, by rw [hafter]; rfl,
          Filled.cons ?_ hfilled.names fun name _ => ?_⟩
        · rw [valuesFor_of_ne v hne]
          exact .refl slot
        · exact hfilled.slots name

/-- Assigning a value fails as its conversion does. -/
theorem assignField_eq_error {name : String} {target : Target}
    {e : ConversionError} (htarget : target? before name = some target)
    (hfailed : target.convert v = .error e) :
    assignField name v before = .error e := by
  induction before with
  | nil => cases htarget
  | cons entry rest ih =>
      obtain ⟨field, slot⟩ := entry
      rw [assignField]
      split
      · next heq =>
        subst heq
        obtain rfl :=
          Option.some.inj
            ((target?_cons_self field slot rest).symm.trans htarget)
        exact Fallible.map_eq_error_iff.mpr
          (Slot.assign_eq_error_iff.mpr hfailed)
      · next hne =>
        rw [target?_cons_of_ne slot rest (Ne.symm hne)] at htarget
        exact Fallible.map_eq_error_iff.mpr (ih htarget)

/-- Behind a column that was assigned, the rest of the row is assigned to what
it has filled. -/
theorem Assigns.cons {outcome : Except ResultError Unit}
    (hconverts : Converts rename columns before (v, place))
    (hfilled : Filled rename columns [(v, place)] before middle)
    (h : Assigns rename columns row middle outcome after) :
    Assigns rename columns ((v, place) :: row) before outcome after := by
  cases h with
  | complete hrest hrow =>
      refine .complete ?_ (hfilled.append hrow)
      exact List.forall_mem_cons.mpr ⟨hconverts, fun placed hmem =>
        hfilled.converts_iff.mp (hrest placed hmem)⟩
  | broken front rest hrow hfront htarget hfailed hbefore =>
      refine .broken ((v, place) :: front) rest (by rw [hrow]; rfl) ?_
        ((hfilled.target?_eq _).symm.trans htarget) hfailed
        (hfilled.append hbefore)
      exact List.forall_mem_cons.mpr ⟨hconverts, fun placed hmem =>
        hfilled.converts_iff.mp (hfront placed hmem)⟩

variable (rename columns) in
theorem assignFields_assigns (index : Nat) (before : List (String × Slot))
    (row : List Value) :
    Assigns rename columns (row.zipIdx index) before
      (assignFields rename columns index before row).1
      (assignFields rename columns index before row).2 := by
  induction row generalizing index before with
  | nil => exact .complete (List.forall_mem_nil _) (.refl before)
  | cons v rest ih =>
      rw [assignFields, List.zipIdx_cons]
      by_cases hconverts : Converts rename columns before (v, index)
      · obtain ⟨middle, hmiddle, hfilled⟩ := exists_assignField hconverts
        rw [fieldAt] at hmiddle
        simp only [hmiddle]
        exact (ih (index + 1) middle).cons hconverts hfilled
      · obtain ⟨target, htarget, hrefused⟩ : ∃ target,
            target? before (fieldAt rename columns index) = some target ∧
              ¬∃ content, target.convert v = .ok content := by
          simpa [Converts] using hconverts
        obtain ⟨e, hfailed⟩ := Fallible.exists_error_iff.mpr hrefused
        have hassigned := assignField_eq_error htarget hfailed
        rw [fieldAt] at hassigned
        simp only [hassigned]
        exact .broken [] _ rfl (List.forall_mem_nil _) htarget hfailed
          (.refl before)

theorem Assigns.ok_iff {outcome : Except ResultError Unit}
    (h : Assigns rename columns row before outcome after) :
    outcome = .ok () ↔
      ∀ placed ∈ row, Converts rename columns before placed := by
  cases h with
  | complete hconverts => exact ⟨fun _ => hconverts, fun _ => rfl⟩
  | broken front rest hrow _ htarget hfailed =>
      refine ⟨nofun, fun hconverts => ?_⟩
      obtain ⟨content, hcontent⟩ :=
        hconverts _ (hrow ▸ List.mem_append_right front List.mem_cons_self)
          _ htarget
      cases hfailed.symm.trans hcontent

end Record

/-- Slots that have taken one value each, in order. -/
inductive Assigned : List Slot → List (Value × Nat) → List Slot → Prop
  | nil : Assigned [] [] []
  | cons {slot filled : Slot} {v : Value} {place : Nat}
      {slots after : List Slot} {row : List (Value × Nat)}
      (hholds : Holds [v] slot filled) (hrest : Assigned slots row after) :
      Assigned (slot :: slots) ((v, place) :: row) (filled :: after)

/-- How the values of a row are assigned to as many slots: all of them, or those
in front of the first one that does not convert. -/
inductive AssignsInOrder (columns : List String) (slots : List Slot)
    (row : List (Value × Nat)) :
    Except ResultError Unit → List Slot → Prop
  | complete {after : List Slot} (hassigned : Assigned slots row after) :
      AssignsInOrder columns slots row (.ok ()) after
  | broken {earlier later filled : List Slot} {slot : Slot}
      {front rest : List (Value × Nat)} {v : Value} {place : Nat}
      {e : ConversionError} (hslots : slots = earlier ++ slot :: later)
      (hrow : row = front ++ (v, place) :: rest)
      (hassigned : Assigned earlier front filled)
      (hfailed : slot.target.convert v = .error e) :
      AssignsInOrder columns slots row
        (.error (.scan (columnName columns place) e)) (filled ++ slot :: later)

theorem AssignsInOrder.cons {columns : List String} {slots after : List Slot}
    {row : List (Value × Nat)} {outcome : Except ResultError Unit}
    {slot filled : Slot} {v : Value} {place : Nat}
    (hholds : Holds [v] slot filled)
    (h : AssignsInOrder columns slots row outcome after) :
    AssignsInOrder columns (slot :: slots) ((v, place) :: row) outcome
      (filled :: after) := by
  cases h with
  | complete hassigned => exact .complete (hassigned.cons hholds)
  | broken hslots hrow hassigned hfailed =>
      exact .broken (by rw [hslots]; rfl) (by rw [hrow]; rfl)
        (hassigned.cons hholds) hfailed

theorem assignSlots_assigns (columns : List String) (index : Nat)
    (slots : List Slot) (row : List Value)
    (hlength : slots.length = row.length) :
    AssignsInOrder columns slots (row.zipIdx index)
      (assignSlots columns index slots row).1
      (assignSlots columns index slots row).2 := by
  induction slots generalizing index row with
  | nil =>
      obtain rfl := List.length_eq_zero_iff.mp hlength.symm
      exact .complete .nil
  | cons slot others ih =>
      cases row with
      | nil => cases hlength
      | cons v rest =>
          have hrest : others.length = rest.length := Nat.succ.inj hlength
          rw [assignSlots, List.zipIdx_cons]
          cases hassigned : slot.assign v with
          | error e =>
              exact .broken rfl rfl .nil (Slot.assign_eq_error_iff.mp hassigned)
          | ok filled =>
              exact (ih (index + 1) rest hrest).cons
                (holds_singleton_iff.mpr hassigned)

/-- Reading a row assigns what it should and nothing else. Into a record it
succeeds exactly if every value whose column is renamed to a field converts for
that field; each field then holds the conversion of the last such value, or its
old content if there is none. A fault names the first column that does not
convert, and the fields hold what the columns in front of it make of them. Into
slots a row of another width changes nothing, and a fault leaves the slots in
front of the failing one assigned and the others as they were. -/
theorem scanWith_assigns_until_fault (rename : String → String)
    (columns : List String) (row : List Value) :
    (∀ fields, ∃ outcome after,
      scanWith rename columns row (.record fields) =
          (outcome.mapError Cause.result, .record after) ∧
        (outcome = .ok () ↔
          ∀ placed ∈ row.zipIdx, Converts rename columns fields placed) ∧
        Assigns rename columns row.zipIdx fields outcome after) ∧
    ∀ slots,
      if slots.length = row.length then
        ∃ outcome after,
          scanWith rename columns row (.slots slots) =
              (outcome.mapError Cause.result, .slots after) ∧
            AssignsInOrder columns slots row.zipIdx outcome after
      else
        scanWith rename columns row (.slots slots) =
          (.error (.result (.columnCount row.length slots.length)),
            .slots slots) := by
  constructor
  · intro fields
    have hassigns := assignFields_assigns rename columns 0 fields row
    exact ⟨_, _, rfl, hassigns.ok_iff, hassigns⟩
  · intro slots
    split
    · next hlength =>
      have hassigns := assignSlots_assigns columns 0 slots row hlength
      exact ⟨_, _, by rw [scanWith, if_pos hlength], hassigns⟩
    · next hlength => rw [scanWith, if_neg hlength]

/-- What reading a row answers, and what it makes of a destination. -/
inductive Scanned (rename : String → String) (columns : List String)
    (row : List Value) : Destination → Except Cause Unit × Destination → Prop
  | record {fields after : List (String × Slot)}
      {outcome : Except ResultError Unit}
      (hassigns : Assigns rename columns row.zipIdx fields outcome after) :
      Scanned rename columns row (.record fields)
        (outcome.mapError Cause.result, .record after)
  | slots {slots after : List Slot} {outcome : Except ResultError Unit}
      (hlength : slots.length = row.length)
      (hassigns : AssignsInOrder columns slots row.zipIdx outcome after) :
      Scanned rename columns row (.slots slots)
        (outcome.mapError Cause.result, .slots after)
  | misfit {slots : List Slot} (hlength : slots.length ≠ row.length) :
      Scanned rename columns row (.slots slots)
        (.error (.result (.columnCount row.length slots.length)), .slots slots)
  | erased :
      Scanned rename columns row .erased (.error (.param .erasedType), .erased)
  | indirect :
      Scanned rename columns row .indirect
        (.error (.param .nestedOptional), .indirect)

/-- The strategy of a cursor renames the columns: a value goes to the field
whose name the strategy makes of its column. -/
theorem scan_scanned (naming : Naming) (columns : List String)
    (row : List Value) (destination : Destination) :
    Scanned naming.fieldName columns row destination
      (destination.scan naming columns row) := by
  cases destination with
  | record fields =>
      exact .record (assignFields_assigns naming.fieldName columns 0 fields row)
  | slots slots =>
      rw [scan, scanWith]
      split
      · next hlength =>
          exact .slots hlength (assignSlots_assigns columns 0 slots row hlength)
      · next hlength => exact .misfit hlength
  | erased => exact .erased
  | indirect => exact .indirect

/-- Two columns go to one field, and the third one stops the row. -/
example :
    scan .snake ["Id", "id", "AGE", "id"] [.int 1, .int 2, .text "old", .int 3]
      (.record [("id", .fresh (.integer .int64)),
        ("age", .fresh (.integer .int32))]) =
    (.error (.result (.scan "AGE" (.mismatch "text" "i64"))),
      .record [("id", ⟨.integer .int64, .integer 2⟩),
        ("age", .fresh (.integer .int32))]) := by
  decide +kernel

end Destination

end NamedSql
