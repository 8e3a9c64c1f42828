import NamedSql.Keyed
import NamedSql.Number.Scaled
import NamedSql.Param.Basic

/-!
JSON documents as parameters: arrays become lists and objects mappings with
their keys in order of code points. Numbers written as integers of 64 bits stay
integers, all others become floats.
-/

namespace NamedSql

/-- A JSON document. A number is `mantissa * 10 ^ -places`, as written. -/
inductive JsonValue where
  | null
  | bool (b : Bool)
  | number (mantissa : Int) (places : Nat)
  | text (s : String)
  | array (items : List JsonValue)
  | object (members : List (String × JsonValue))

namespace JsonValue

def numberValue (mantissa : Int) (places : Nat) : Value :=
  if places = 0 ∧ int64.contains mantissa then .int mantissa
  else .float (.ofScaled mantissa places)

mutual

def toParam : JsonValue → Param
  | .null => .scalar .null
  | .bool b => .scalar (.bool b)
  | .number mantissa places => .scalar (numberValue mantissa places)
  | .text s => .scalar (.text s)
  | .array items => .sequence (itemParams items)
  | .object members =>
      .mapping ((Keyed.ofList (memberParams members)).map fun (key, value) =>
        (.scalar (.text key), value))

def itemParams : List JsonValue → List Param
  | [] => []
  | item :: rest => item.toParam :: itemParams rest

def memberParams : List (String × JsonValue) → List (String × Param)
  | [] => []
  | (key, value) :: rest => (key, value.toParam) :: memberParams rest

end

end JsonValue

end NamedSql
