import NamedSql.Statement.Kind
import NamedSql.Template.Dialect
import NamedSql.Value.Basic

/-!
A named SQL statement: its template text, the conditional clauses marked in it
by tokens, and, once normalized, its held text, its columns and its text in the
driver's syntax.
-/

namespace NamedSql

/-- When a conditional fragment is kept. -/
inductive Policy where
  | present
  | absent
deriving DecidableEq, Repr

namespace Policy

/-- An empty mark and `true` in any case ask for presence, all else for
absence. -/
def ofMark (exist : String) : Policy :=
  if exist.isEmpty || Text.toAsciiLower exist == "true" then .present
  else .absent

def name : Policy → String
  | .present => "IncludeIfPresent"
  | .absent => "IncludeIfAbsent"

end Policy

/-- A conditional fragment and the token that marks its place in the text. -/
structure Clause where
  token : String
  key : String
  fragment : String
  policy : Policy
deriving DecidableEq, Repr

inductive StatementError where
  | notFound (id : String)
  | duplicate (key : String)
  | notExecutable
  | notQueryable
  | unknownDriver (driver : String)
  | malformed (id : String) (cause : Template.Malformation)
  | notRegistrable (id : String) (kind : StatementKind)
deriving DecidableEq, Repr

def StatementError.message : StatementError → String
  | .notFound id => s!"not found query statement for id : {id}"
  | .duplicate key => s!"duplicated user statement id : {key}"
  | .notExecutable =>
      "invalid execution for sql. only insert or update permitted"
  | .notQueryable => "invalid query for sql. only select permitted"
  | .unknownDriver driver => s!"not found normalizer for {driver}"
  | .malformed id cause => "malformed statement " ++ id ++ ": " ++ cause.message
  | .notRegistrable id kind =>
      "malformed statement " ++ id ++ ": element kind " ++ kind.name ++
        " cannot be registered"

/-- A driver's dialect, or why there is none. -/
def Dialect.ofDriver (driver : String) : Except StatementError Dialect :=
  match ofDriver? driver with
  | some dialect => .ok dialect
  | none => .error (.unknownDriver driver)

structure Statement where
  id : String
  kind : StatementKind
  text : String
  clauses : List Clause
  columns : List Column
  held : String
  resolved : String
deriving DecidableEq, Repr

namespace Statement

/-- A statement that is not normalized yet. -/
def raw (id : String) (kind : StatementKind) (text : String)
    (clauses : List Clause) : Statement :=
  ⟨id, kind, text, clauses, [], "", ""⟩

/-- Finds the slots of the text and renders it for a dialect. -/
def normalize (dialect : Dialect) (s : Statement) :
    Except StatementError Statement :=
  match Template.items s.text.toList with
  | .error cause => .error (.malformed s.id cause)
  | .ok template =>
      let held := Template.heldText template
      .ok { s with
        columns := Template.columns template
        held := String.ofList held
        resolved := String.ofList (dialect.render held) }

/-- Raw SQL as a statement: the text is its own id. -/
def ofSql (dialect : Dialect) (sql : String) :
    Except StatementError Statement :=
  (raw sql (.ofSql sql) sql []).normalize dialect

def hasCondition (s : Statement) : Bool :=
  !s.clauses.isEmpty

def hasList (s : Statement) : Bool :=
  s.columns.any Column.takesList

def firstIsList (s : Statement) : Bool :=
  s.columns.head?.any Column.takesList

def columnText (column : Column) : String :=
  column.name ++ "/" ++ toString column.position ++ "/" ++
    (if column.takesList then "ARRAY" else "NORMAL")

def describe (s : Statement) : String :=
  "kind=[" ++ s.kind.name ++ "], id=[" ++ s.id ++ "], query=[" ++ s.resolved ++
    "], clauses=[" ++ toString s.clauses.length ++ "], columns=[" ++
    " ".intercalate (s.columns.map columnText) ++ "], hold=[" ++ s.held ++ "]"

/-- The line that shows the arguments of a call, empty if there are none. -/
def argumentLine (id : String) (arguments : List Value) : String :=
  if arguments.isEmpty then ""
  else
    "\n[" ++ id ++ "] params : " ++
      String.join (arguments.map fun value => "[" ++ value.display ++ "] ")

/-- The line that shows a call. -/
def callLine (id sql : String) : String :=
  "[" ++ id ++ "] " ++ sql

/-- The statement and the arguments of one call of it. -/
def trace (s : Statement) (arguments : List Value) : String :=
  callLine s.id s.resolved ++ argumentLine s.id arguments

end Statement

end NamedSql
