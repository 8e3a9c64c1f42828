import NamedSql.Text.Blank
import NamedSql.Text.Case

/-!
The kinds of a declared element and the kind of ad-hoc SQL text.
-/

namespace NamedSql

inductive StatementKind where
  | insert
  | update
  | select
  | fragment
  | unknown
deriving DecidableEq, Repr

namespace StatementKind

def name : StatementKind → String
  | .insert => "INSERT"
  | .update => "UPDATE"
  | .select => "SELECT"
  | .fragment => "IF"
  | .unknown => "UNKNOWN"

/-- The kind of a markup element, named in any case. -/
def ofElement (element : String) : StatementKind :=
  match Text.toAsciiLower element with
  | "select" => .select
  | "insert" => .insert
  | "update" | "delete" => .update
  | "if" => .fragment
  | _ => .unknown

/-- The kind of raw SQL by its leading keyword. Only the first ten characters
behind leading white space are looked at, and what is neither keyword counts as
an update. -/
def ofSql (sql : String) : StatementKind :=
  let head := ((Text.trimStart sql.toList).take 10).flatMap Text.upperCase
  if "SELECT".toList.isPrefixOf head then .select
  else if "INSERT".toList.isPrefixOf head then .insert
  else .update

/-- Kinds that carry SQL to run. -/
def isSql : StatementKind → Bool
  | .insert | .update | .select => true
  | _ => false

/-- Kinds that executions accept. -/
def isWrite : StatementKind → Bool
  | .insert | .update => true
  | _ => false

end StatementKind

end NamedSql
