import NamedSql.Naming

/-!
Where a row goes. Slots take the values of a row in order, all of them; the
fields of a record take the values of the columns that are named like them. What
was assigned before a fault stays.
-/

namespace NamedSql

structure Slot where
  target : Target
  content : Datum
deriving DecidableEq, Repr

namespace Slot

def fresh (target : Target) : Slot :=
  ⟨target, target.fresh⟩

def assign (slot : Slot) (v : Value) : Except ConversionError Slot :=
  (fun content => { slot with content }) <$> slot.target.convert v

end Slot

inductive Destination where
  | slots (list : List Slot)
  | record (fields : List (String × Slot))
  | erased
  | indirect
deriving DecidableEq, Repr

namespace Destination

def ofTargets (targets : List Target) : Destination :=
  .slots (targets.map Slot.fresh)

def ofFields (fields : List (String × Target)) : Destination :=
  .record (fields.map fun (name, target) => (name, .fresh target))

def describe : Destination → String
  | .slots list => "Values(" ++ toString list.length ++ ")"
  | .record _ => "Record"
  | .erased => "Opaque"
  | .indirect => "Indirect"

/-- The name under which a column is reported: its own, or its place if the
result has none. -/
def columnName (columns : List String) (index : Nat) : String :=
  match columns[index]? with
  | some name => name
  | none => s!"#{index + 1}"

/-- Assigns values to slots in order until one does not convert. -/
def assignSlots (columns : List String) (index : Nat) :
    List Slot → List Value → Except ResultError Unit × List Slot
  | slot :: others, v :: row =>
      match slot.assign v with
      | .error cause =>
          (.error (.scan (columnName columns index) cause), slot :: others)
      | .ok assigned =>
          let (outcome, rest) := assignSlots columns (index + 1) others row
          (outcome, assigned :: rest)
  | untouched, _ => (.ok (), untouched)

/-- Assigns a value to the field of a name. Without such a field nothing
changes. -/
def assignField (name : String) (v : Value) :
    List (String × Slot) → Except ConversionError (List (String × Slot))
  | [] => .ok []
  | (field, slot) :: rest =>
      if field = name then
        (fun assigned => (field, assigned) :: rest) <$> slot.assign v
      else ((field, slot) :: ·) <$> assignField name v rest

/-- Assigns the columns of a row in order until one does not convert. A column
goes to the field that `rename` makes of its name. -/
def assignFields (rename : String → String) (columns : List String)
    (index : Nat) (fields : List (String × Slot)) :
    List Value → Except ResultError Unit × List (String × Slot)
  | [] => (.ok (), fields)
  | v :: row =>
      let column := columnName columns index
      match assignField (rename column) v fields with
      | .error cause => (.error (.scan column cause), fields)
      | .ok assigned => assignFields rename columns (index + 1) assigned row

/-- Reads a row into a destination, the names of its columns turned into those
of fields by `rename`. -/
def scanWith (rename : String → String) (columns : List String)
    (row : List Value) :
    Destination → Except Cause Unit × Destination
  | .slots list =>
      if list.length = row.length then
        let (outcome, assigned) := assignSlots columns 0 list row
        (outcome.mapError Cause.result, .slots assigned)
      else (.error (.result (.columnCount row.length list.length)), .slots list)
  | .record fields =>
      let (outcome, assigned) := assignFields rename columns 0 fields row
      (outcome.mapError Cause.result, .record assigned)
  | .erased => (.error (.param .erasedType), .erased)
  | .indirect => (.error (.param .nestedOptional), .indirect)

/-- Reads a row into a destination. -/
def scan (naming : Naming) (columns : List String) (row : List Value) :
    Destination → Except Cause Unit × Destination :=
  scanWith naming.fieldName columns row

end Destination

end NamedSql
