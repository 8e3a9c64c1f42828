import NamedSql.Number.Shortest
import NamedSql.Timestamp.Text
import NamedSql.Text.Json

/-!
Scalar values as a driver understands them: what an argument list is made of and
what a row carries back, with their display text and their JSON form.
-/

namespace NamedSql

inductive Value where
  | null
  | bool (b : Bool)
  | int (n : Int)
  | float (x : Binary64)
  | text (s : String)
  | bytes (data : List UInt8)
  | timestamp (t : Timestamp)
deriving DecidableEq, Repr

namespace Value

def typeName : Value → String
  | .null => "null"
  | .bool _ => "bool"
  | .int _ => "int"
  | .float _ => "float"
  | .text _ => "text"
  | .bytes _ => "bytes"
  | .timestamp _ => "timestamp"

def isNull : Value → Bool
  | .null => true
  | _ => false

def intText (n : Int) : String :=
  String.ofList (if n < 0 then '-' :: Nat.toDigits 10 n.natAbs
  else Nat.toDigits 10 n.natAbs)

def byteDigits (b : UInt8) : List Char :=
  [Nat.digitChar (b.toNat / 16), Nat.digitChar (b.toNat % 16)]

def display : Value → String
  | .null => "nil"
  | .bool b => if b then "true" else "false"
  | .int n => intText n
  | .float x => x.text
  | .text s => s
  | .bytes data => "0x" ++ String.ofList (data.flatMap byteDigits)
  | .timestamp t => t.text

/-- The tagged JSON form. A float has none: its JSON text is not fixed here. -/
def json? : Value → Option String
  | .null => some (Text.jsonQuoted "Null".toList)
  | .bool b => some (tagged "Bool" (if b then "true" else "false"))
  | .int n => some (tagged "Int" (intText n))
  | .float _ => none
  | .text s => some (tagged "Text" (Text.jsonQuoted s.toList))
  | .bytes data =>
      some (tagged "Bytes"
        ("[" ++ ",".intercalate (data.map fun b => intText b.toNat) ++ "]"))
  | .timestamp t => some (tagged "Timestamp" (Text.jsonQuoted (t.render 'T')))
where
  tagged (tag content : String) : String :=
    "\x7b" ++ Text.jsonQuoted tag.toList ++ ":" ++ content ++ "\x7d"

end Value

end NamedSql
