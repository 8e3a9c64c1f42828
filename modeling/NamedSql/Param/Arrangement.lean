import NamedSql.Param.Basic
import NamedSql.Statement.Declaration

/-!
How a parameter list is laid out for a statement. The first parameter decides:
scalars are bound by position, a mapping or a record by name, and a list by
position or as rows of a batch.
-/

namespace NamedSql

/-- Which call the parameters are for; only executions accept rows. -/
inductive CallMode where
  | execute
  | query
deriving DecidableEq, Repr

inductive Arrangement where
  | empty
  | positional (values : List Param)
  | named (values : NamedParams) (presence : List String)
  | rows (rows : List Param)

namespace Arrangement

/-- Only values by name tell which names are present. -/
def presence : Arrangement → Statement.Presence
  | .named _ presence => some presence
  | _ => none

/-- A record's names are those of the fields that are supplied. -/
def recordPresence (fields : List (String × Param)) : List String :=
  (fields.filter fun field => field.2.isSupplied).map Prod.fst

/-- The arrangement of a list given as the first parameter. Where the statement
takes lists, the list belongs to the first column if that takes one, and holds
the values of the columns otherwise. Where it takes none, a list that opens with
a row holds rows. -/
def ofList (s : Statement) (parameters items : List Param) (mode : CallMode) :
    Except ParamError Arrangement :=
  if s.hasList then
    .ok (.positional (if s.firstIsList then parameters else items))
  else
    match items.head?.bind Param.rowShape?, mode with
    | some _, .execute => .ok (.rows items)
    | some kind, .query => .error (.listElement kind)
    | none, _ => .ok (.positional items)

def classify (s : Statement) (parameters : List Param) (mode : CallMode) :
    Except ParamError Arrangement :=
  match parameters with
  | [] => .ok .empty
  | first :: _ => do
      match ← first.present with
      | .erased _ => .error .erasedType
      | .scalar _ => .ok (.positional parameters)
      | .mapping entries =>
          let values ← Param.entriesByName entries
          .ok (.named values (values.map Prod.fst))
      | .record fields => .ok (.named fields (recordPresence fields))
      | .sequence items => ofList s parameters items mode
      | .optional _ => .error .nestedOptional

end Arrangement

/-- The names that a parameter list supplies, known before its statement is
refined. -/
def presenceOf (parameters : List Param) :
    Except ParamError Statement.Presence :=
  match parameters with
  | [] => .ok none
  | first :: _ => do
      match ← first.present with
      | .mapping entries =>
          let values ← Param.entriesByName entries
          .ok (some (values.map Prod.fst))
      | .record fields => .ok (some (Arrangement.recordPresence fields))
      | _ => .ok none

end NamedSql
