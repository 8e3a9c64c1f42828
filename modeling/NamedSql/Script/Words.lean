import NamedSql.Backend.Scripted
import NamedSql.Script.Step

/-!
The words by which a script names types, dialects, points of a backend and the
ends of transactions.
-/

namespace NamedSql.Script

def integerTypes : List IntegerType :=
  [.int8, .int16, .int32, .int64, .uint16, .uint32, .uint64]

/-- A type that is not optional. -/
def plainTarget (word : String) : Target :=
  match word with
  | "bool" => .bool
  | "f32" => .single
  | "f64" => .double
  | "String" => .text
  | "bytes" => .bytes
  | "ts" => .timestamp
  | _ => ((integerTypes.find? (·.name == word)).map Target.integer).getD .value

/-- A type, which `opt` makes optional. -/
def target (word : String) : Target :=
  match Text.splitAtMark? "opt ".toList word.toList with
  | some ([], inner) => .optional (plainTarget (String.ofList inner))
  | _ => plainTarget word

/-- Types between parentheses are those of a tuple. -/
def tupleTargets? (word : String) : Option (List Target) :=
  match word.toList with
  | '(' :: inner =>
      some ((Text.splitEvery ',' inner.dropLast).map fun part =>
        target (String.ofList part))
  | _ => none

/-- A tuple of slots, or a slot alone. -/
def slots (word : String) : Destination :=
  .ofTargets ((tupleTargets? word).getD [target word])

def dialect (word : String) : Dialect :=
  match word with
  | "dollar" => .dollar
  | "atp" => .atP
  | _ => .question

def kinds : List StatementKind :=
  [.insert, .update, .select, .fragment]

def kind (word : String) : StatementKind :=
  (kinds.find? (·.name == word)).getD .unknown

def points : List (String × Backend.Point) :=
  [("exec", .exec), ("query", .query), ("prepare", .prepare), ("next", .fetch),
    ("close_cursor", .closeCursor), ("close_stmt", .closeStatement),
    ("begin", .beginTransaction), ("commit", .commit), ("rollback", .rollback),
    ("close", .close)]

def point? (word : String) : Option Backend.Point :=
  points.lookup word

def fault (word : String) : DriverError :=
  if word == "bad" then .badConnection else .failed word

def ending (word : String) : Ending :=
  match word with
  | "commit" => .commit
  | "rollback" => .rollback
  | _ => .drop

end NamedSql.Script
