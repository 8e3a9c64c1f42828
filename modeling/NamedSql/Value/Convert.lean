import NamedSql.Value.Basic
import NamedSql.Text.Utf8

/-!
Converting a value that came back from the driver into the type its reader asks
for.
-/

namespace NamedSql

inductive ConversionError where
  | mismatch (found target : String)
  | overflow (value : Int) (target : String)
  | unexpectedNull (target : String)
deriving DecidableEq, Repr

def ConversionError.message : ConversionError → String
  | .mismatch found target => s!"cannot convert {found} into {target}"
  | .overflow value target => s!"value {Value.intText value} overflows {target}"
  | .unexpectedNull target => s!"unexpected NULL for {target}"

inductive IntegerType where
  | int8 | int16 | int32 | int64 | uint16 | uint32 | uint64
deriving DecidableEq, Repr

namespace IntegerType

def name : IntegerType → String
  | .int8 => "i8"
  | .int16 => "i16"
  | .int32 => "i32"
  | .int64 => "i64"
  | .uint16 => "u16"
  | .uint32 => "u32"
  | .uint64 => "u64"

def range : IntegerType → IntegerRange
  | .int8 => .signed 8
  | .int16 => .signed 16
  | .int32 => .signed 32
  | .int64 => .signed 64
  | .uint16 => .unsigned 16
  | .uint32 => .unsigned 32
  | .uint64 => .unsigned 64

end IntegerType

/-- What a reader asks for. -/
inductive Target where
  | bool
  | integer (type : IntegerType)
  | double
  | single
  | text
  | bytes
  | timestamp
  | value
  | optional (inner : Target)
deriving DecidableEq, Repr

/-- A converted value. -/
inductive Datum where
  | bool (b : Bool)
  | integer (n : Int)
  | double (x : Binary64)
  | single (x : Binary32)
  | text (s : String)
  | bytes (data : List UInt8)
  | timestamp (t : Timestamp)
  | value (v : Value)
  | absent
deriving DecidableEq, Repr

namespace Value

def refuse (target : String) : Value → ConversionError
  | .null => .unexpectedNull target
  | v => .mismatch v.typeName target

def toBool : Value → Except ConversionError Bool
  | .bool b => .ok b
  | .int n => .ok (n != 0)
  | v => .error (refuse "bool" v)

/-- Integers of 64 bits: a text is trimmed and read as a decimal. -/
def toInt64 : Value → Except ConversionError Int
  | .int n => .ok n
  | .bool b => .ok (if b then 1 else 0)
  | .text s =>
      match int64.read? (Text.trim s.toList) with
      | some n => .ok n
      | none => .error (.mismatch "text" "i64")
  | v => .error (refuse "i64" v)

/-- Every integer type goes through 64 bits. Only a missing value is reported
under the type's own name before the range is checked. -/
def toInteger (type : IntegerType) (v : Value) : Except ConversionError Int :=
  match v.toInt64 with
  | .error (.unexpectedNull _) => .error (.unexpectedNull type.name)
  | .error e => .error e
  | .ok n =>
      if type.range.contains n then .ok n else .error (.overflow n type.name)

def toDouble : Value → Except ConversionError Binary64
  | .float x => .ok x
  | .int n => .ok (.ofInt n)
  | .text s =>
      match Binary64.read? (Text.trim s.toList) with
      | some x => .ok x
      | none => .error (.mismatch "text" "f64")
  | v => .error (refuse "f64" v)

/-- Anything but a missing value has a text; bytes have one if they are
UTF-8. -/
def toText : Value → Except ConversionError String
  | .text s => .ok s
  | .bytes data =>
      match Text.decodeUtf8 data with
      | .ok chars => .ok (String.ofList chars)
      | .error _ => .error (.mismatch "bytes" "String")
  | .null => .error (.unexpectedNull "String")
  | v => .ok v.display

def toBytes : Value → Except ConversionError (List UInt8)
  | .bytes data => .ok data
  | .text s => .ok (Text.toUtf8 s.toList)
  | v => .error (refuse "Vec<u8>" v)

def toTimestamp : Value → Except ConversionError Timestamp
  | .timestamp t => .ok t
  | .text s =>
      match Timestamp.read? s.toList with
      | some t => .ok t
      | none => .error (.mismatch "text" "NaiveDateTime")
  | v => .error (refuse "NaiveDateTime" v)

end Value

def Target.convert : Target → Value → Except ConversionError Datum
  | .bool, v => Datum.bool <$> v.toBool
  | .integer type, v => Datum.integer <$> v.toInteger type
  | .double, v => Datum.double <$> v.toDouble
  | .single, v => (fun x => Datum.single x.narrow) <$> v.toDouble
  | .text, v => Datum.text <$> v.toText
  | .bytes, v => Datum.bytes <$> v.toBytes
  | .timestamp, v => Datum.timestamp <$> v.toTimestamp
  | .value, v => .ok (.value v)
  | .optional inner, v => if v.isNull then .ok .absent else inner.convert v

/-- What a slot holds before anything is assigned to it. -/
def Target.fresh : Target → Datum
  | .bool => .bool false
  | .integer _ => .integer 0
  | .double => .double .zero
  | .single => .single .zero
  | .text => .text ""
  | .bytes => .bytes []
  | .timestamp => .timestamp .epoch
  | .value => .value .null
  | .optional _ => .absent

end NamedSql
