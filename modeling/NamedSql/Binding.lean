import NamedSql.Param.Arrangement
import NamedSql.Error

/-!
Binding parameters to the columns of a statement. The outcome is the SQL of one
driver call and its arguments, one per placeholder; a list of several values at
a list column widens the SQL by as many placeholders.
-/

namespace NamedSql

structure Binding where
  sql : String
  arguments : List Value
deriving DecidableEq, Repr

namespace Param

/-- The value of a column that takes one: an optional may stand around it, but
no second one. -/
def toScalar (column : String) : Param → Except Cause Value
  | .scalar value => .ok value
  | .optional none => .ok .null
  | .optional (some (.optional _)) => .error (.param .nestedOptional)
  | .optional (some inner) => inner.toScalar column
  | .erased _ => .error (.param .erasedType)
  | .sequence _ | .mapping _ | .record _ => .error (.bind (.notScalar column))

/-- The values of a column that takes a list. What is no list counts as a list
of one, and an empty list supplies one null so that the placeholder stays
filled. -/
def toScalars (column : String) (p : Param) : Except Cause (List Value) :=
  match p.unwrapped with
  | .sequence [] => .ok [.null]
  | .sequence items => items.mapM (·.toScalar column)
  | inner => (fun value => [value]) <$> inner.toScalar column

end Param

namespace Statement

/-- Binds columns in order, each to the parameter that `lookup` finds for it. At
most one list may have several values; its hold mark is then widened before the
text is rendered. -/
def bindColumns (dialect : Dialect) (s : Statement)
    (lookup : Nat → Column → Except Cause Param) : Except Cause Binding :=
  go 0 s.columns [] none
where
  go (index : Nat) :
      List Column → List Value → Option String → Except Cause Binding
    | [], arguments, widened => .ok ⟨widened.getD s.resolved, arguments⟩
    | column :: rest, arguments, widened => do
        let p ← lookup index column
        if column.takesList then
          let values ← p.toScalars column.name
          if values.length > 1 then
            if widened.isSome then .error (.bind .severalLists)
            else
              let held :=
                Template.expandHold s.held.toList column.position values.length
              go (index + 1) rest (arguments ++ values)
                (some (String.ofList (dialect.render held)))
          else go (index + 1) rest (arguments ++ values) widened
        else
          let value ← p.toScalar column.name
          go (index + 1) rest (arguments ++ [value]) widened

/-- The name under which the value at an index is reported: its column's, or its
place. -/
def columnNameAt (s : Statement) (index : Nat) : String :=
  match s.columns[index]? with
  | some column => column.name
  | none => s!"#{index + 1}"

/-- Scalars of a list of parameters, reported under the names of the columns
from `index` on. -/
def scalarsFrom (s : Statement) (index : Nat) :
    List Param → Except Cause (List Value)
  | [] => .ok []
  | p :: rest => do
      let value ← p.toScalar (s.columnNameAt index)
      let values ← s.scalarsFrom (index + 1) rest
      return value :: values

/-- Binds values in order. Without list columns every value is passed on, also
those beyond the last column. -/
def bindPositional (dialect : Dialect) (s : Statement) (values : List Param) :
    Except Cause Binding :=
  if values.length < s.columns.length then
    .error (.bind (.countMismatch s.columns.length values.length))
  else if s.hasList then
    s.bindColumns dialect fun index _ =>
      match values[index]? with
      | some p => .ok p
      | none => .error (.bind (.countMismatch s.columns.length values.length))
  else do
    let arguments ← s.scalarsFrom 0 values
    return ⟨s.resolved, arguments⟩

def lookupNamed (values : NamedParams) (column : Column) : Except Cause Param :=
  match values.find? column.name with
  | some p => .ok p
  | none => .error (.bind (.missingKey column.name))

/-- Binds every column to the value of its name. -/
def bindNamed (dialect : Dialect) (s : Statement) (values : NamedParams) :
    Except Cause Binding :=
  s.bindColumns dialect fun _ column => lookupNamed values column

/-- The arguments of one row by name. -/
def bindRowNamed (s : Statement) (values : NamedParams) :
    Except Cause (List Value) :=
  s.columns.mapM fun column => do
    let p ← lookupNamed values column
    p.toScalar column.name

/-- The arguments of one row of a batch. Rows never widen the SQL, so every
column takes one value; a list may be longer than there are columns. -/
def bindRow (s : Statement) (row : Param) : Except Cause (List Value) :=
  match row.present with
  | .error e => .error (.param e)
  | .ok (.sequence items) =>
      if items.length < s.columns.length then
        .error (.bind (.countMismatch s.columns.length items.length))
      else
        (s.columns.zip items).mapM fun (column, item) =>
          item.toScalar column.name
  | .ok (.mapping entries) =>
      match Param.entriesByName entries with
      | .error e => .error (.param e)
      | .ok values => s.bindRowNamed values
  | .ok (.record fields) => s.bindRowNamed fields
  | .ok other => .error (.bind (.notScalar other.kindName))

end Statement

end NamedSql
