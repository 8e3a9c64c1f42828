import NamedSql.Template.Basic
import NamedSql.Text.Case

/-!
How a driver writes its placeholders, and the rendering of a held text in that
way. Hold marks in quoted runs are text and stay as they are.
-/

namespace NamedSql

inductive Dialect where
  | question
  | dollar
  | atP
deriving DecidableEq, Repr

namespace Dialect

def name : Dialect → String
  | .question => "QuestionMark"
  | .dollar => "Dollar"
  | .atP => "AtP"

/-- The placeholder for the argument with the given ordinal, the first being
1. -/
def placeholder : Dialect → Nat → List Char
  | .question, _ => [Template.holdMark]
  | .dollar, ordinal => '$' :: Nat.toDigits 10 ordinal
  | .atP, ordinal => '@' :: 'p' :: Nat.toDigits 10 ordinal

/-- The dialect of a driver, named in any case. -/
def ofDriver? (driver : String) : Option Dialect :=
  match Text.toAsciiLower driver with
  | "mysql" | "mariadb" | "sqlite" | "sqlite3" => some .question
  | "postgres" | "postgresql" | "pgx" => some .dollar
  | "sqlserver" | "mssql" => some .atP
  | _ => none

/-- Renders what follows an open quote, if any, with `used` placeholders before
it. -/
def renderFrom (dialect : Dialect) : Option Char → Nat → List Char → List Char
  | _, _, [] => []
  | some mark, used, c :: rest =>
      c :: dialect.renderFrom (if c = mark then none else some mark) used rest
  | none, used, c :: rest =>
      if Template.isQuote c then c :: dialect.renderFrom (some c) used rest
      else if c = Template.holdMark then
        dialect.placeholder (used + 1) ++
          dialect.renderFrom none (used + 1) rest
      else c :: dialect.renderFrom none used rest

/-- The held text in the driver's own syntax. -/
def render (dialect : Dialect) (held : List Char) : List Char :=
  dialect.renderFrom none 0 held

/-- How the renderer of a dialect shows itself. -/
def describe (dialect : Dialect) : String :=
  "PlaceholderNormalizer \x7b style: " ++ dialect.name ++ " \x7d"

end Dialect

end NamedSql
