import NamedSql.Value.Basic

/-!
Parameters as a caller hands them over: scalars, lists, mappings, records,
optional values and values of an erased type, which have no shape to bind.
-/

namespace NamedSql

inductive Param where
  | scalar (value : Value)
  | sequence (items : List Param)
  | mapping (entries : List (Param × Param))
  | record (fields : List (String × Param))
  | optional (inner : Option Param)
  | erased (type : String)

inductive ParamError where
  | erasedType
  | nestedOptional
  | keyNotText
  | missing
  | listElement (kind : String)
  | rowShape (index : Nat) (expected found : String)
deriving DecidableEq, Repr

def ParamError.message : ParamError → String
  | .erasedType => "not supported type : interface"
  | .nestedOptional => "not supported type : ptr"
  | .keyNotText => "map key should be string"
  | .missing => "destination pointer is nil"
  | .listElement kind => s!"unacceptable parameter type in list. kind={kind}"
  | .rowShape index expected found =>
      s!"batch element {index} should be {expected}, found {found}"

/-- Values by name in the order given; of two under one name the later
counts. -/
abbrev NamedParams := List (String × Param)

def NamedParams.find? (values : NamedParams) (name : String) : Option Param :=
  values.reverse.lookup name

namespace Param

def kindName : Param → String
  | .scalar _ => "scalar"
  | .sequence _ => "sequence"
  | .mapping _ => "mapping"
  | .record _ => "record"
  | .optional _ => "optional"
  | .erased _ => "opaque"

def isComposite : Param → Bool
  | .sequence _ | .mapping _ | .record _ => true
  | _ => false

/-- Looks through one optional that holds a value. -/
def unwrapped : Param → Param
  | .optional (some inner) => inner
  | p => p

/-- The scalar, looking through one optional. -/
def scalar? (p : Param) : Option Value :=
  match p.unwrapped with
  | .scalar value => some value
  | _ => none

/-- The shape of a row of values, or nothing for a parameter that is no row. -/
def rowShape? (p : Param) : Option String :=
  if p.unwrapped.isComposite then some p.unwrapped.kindName else none

/-- Looks through one optional, which must hold a value and no further
optional. -/
def present : Param → Except ParamError Param
  | .optional none => .error .missing
  | .optional (some (.optional _)) => .error .nestedOptional
  | .optional (some inner) => .ok inner
  | p => .ok p

/-- The entries of a mapping by name; every key must be a text. -/
def entriesByName : List (Param × Param) → Except ParamError NamedParams
  | [] => .ok []
  | (.scalar (.text name), value) :: rest =>
      ((name, value) :: ·) <$> entriesByName rest
  | _ :: _ => .error .keyNotText

/-- A field counts as supplied unless it holds nothing or null. -/
def isSupplied : Param → Bool
  | .optional none => false
  | .scalar .null => false
  | _ => true

end Param

end NamedSql
