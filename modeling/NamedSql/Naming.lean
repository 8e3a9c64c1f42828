import NamedSql.Error

/-!
How the column names of a result become field names. Snake case splits a name
into words at every character that is no letter and no digit, and where the case
of the letters marks a new word.
-/

namespace NamedSql

inductive Naming where
  | snake
  | exact
deriving DecidableEq, Repr

namespace Naming

/-- A capital starts a word behind a small letter or a digit, and so does the
last capital of a run that a small letter follows. -/
def startsWord (previous : Option Char) (c : Char) (next : Option Char) :
    Bool :=
  Text.isUpper c &&
    match previous with
    | none => false
    | some p =>
        Text.isLower p || p.isDigit || (Text.isUpper p && next.any Text.isLower)

/-- The snake case form of what follows `previous`. An underscore may be written
if `separable`, that is, if the form so far is not empty and does not end in
one. -/
def snakeFrom (previous : Option Char) (separable : Bool) :
    List Char → List Char
  | [] => []
  | c :: rest =>
      if Text.isAlphanumeric c then
        (if separable && startsWord previous c rest.head? then ['_'] else []) ++
          Text.lowerCase c ++ snakeFrom (some c) true rest
      else (if separable then ['_'] else []) ++ snakeFrom (some c) false rest

def toSnake (column : List Char) : List Char :=
  ((snakeFrom none false column).reverse.dropWhile (· == '_')).reverse

def fieldName : Naming → String → String
  | .snake, column => String.ofList (toSnake column.toList)
  | .exact, column => column

/-- Reads the name of a naming, in any case. -/
def read (text : String) : Except ConfigError Naming :=
  match Text.toAsciiLower text with
  | "snake" | "snake_case" => .ok .snake
  | "exact" => .ok .exact
  | other => .error (.setting "field_naming" (.unknownNaming other))

def name : Naming → String
  | .snake => "Snake"
  | .exact => "Exact"

/-- The name of the strategy that converts columns. -/
def strategyName (naming : Naming) : String :=
  naming.name ++
    (match naming with | .snake => "CaseStrategy" | .exact => "Strategy")

end Naming

end NamedSql
