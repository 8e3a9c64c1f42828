import NamedSql.Statement.Declaration

/-!
The registered statements, under ids that compare without regard to case. A text
that is no id but SQL is found as an ad-hoc statement.
-/

namespace NamedSql

/-- Accepted statements in order, each under its folded id. -/
structure Registry where
  entries : List (String × Statement)
deriving DecidableEq, Repr

namespace Registry

def empty : Registry := ⟨[]⟩

def fold (id : String) : String :=
  Text.toUpper id

def get? (registry : Registry) (id : String) : Option Statement :=
  registry.entries.lookup (fold id)

def size (registry : Registry) : Nat :=
  registry.entries.length

def keys (registry : Registry) : List String :=
  registry.entries.map Prod.fst

/-- Adds a statement unless its folded id is taken. -/
def register (registry : Registry) (s : Statement) :
    Except StatementError Unit × Registry :=
  if (registry.get? s.id).isSome then
    (.error (.duplicate (fold s.id)), registry)
  else (.ok (), ⟨registry.entries ++ [(fold s.id, s)]⟩)

/-- The position of a character's first occurrence lies behind the start. -/
def occursLate (mark : Char) : List Char → Bool
  | [] => false
  | c :: rest => c != mark && rest.contains mark

/-- A text is SQL rather than an id if a space, a tab or a line break first
occurs behind its start. Each of these is looked up on its own. -/
def isSqlText (text : String) : Bool :=
  [' ', '\t', '\n', '\r'].any fun mark => occursLate mark text.toList

def find (registry : Registry) (dialect : Dialect) (id : String) :
    Except StatementError Statement :=
  match registry.get? id with
  | some s => .ok s
  | none =>
      if isSqlText id then Statement.ofSql dialect id else .error (.notFound id)

end Registry

/-- A registry under construction, with the last clause number that it used. -/
structure Catalog where
  dialect : Dialect
  registry : Registry
  used : Nat
deriving DecidableEq, Repr

namespace Catalog

def empty (dialect : Dialect) : Catalog :=
  ⟨dialect, .empty, 0⟩

/-- Builds and registers a declaration. -/
def declare (catalog : Catalog) (d : Declaration) :
    Except StatementError Unit × Catalog :=
  let (built, used) := d.build catalog.dialect catalog.used
  match built with
  | .error e => (.error e, { catalog with used })
  | .ok s =>
      let (outcome, registry) := catalog.registry.register s
      (outcome, { catalog with used, registry })

/-- Declares one statement after the other and stops at the first that fails. -/
def declareAll : Catalog → List Declaration → Except StatementError Catalog
  | catalog, [] => .ok catalog
  | catalog, d :: rest =>
      match catalog.declare d with
      | (.error e, _) => .error e
      | (.ok (), catalog) => catalog.declareAll rest

def find (catalog : Catalog) (id : String) : Except StatementError Statement :=
  catalog.registry.find catalog.dialect id

/-- Takes the next clause token. -/
def takeToken (catalog : Catalog) : String × Catalog :=
  (clauseToken (catalog.used + 1), { catalog with used := catalog.used + 1 })

end Catalog

end NamedSql
