import NamedSql.Statement.Basic

/-!
Declaring statements. A declaration is a list of parts, literal SQL or
conditional fragments. Each fragment is marked in the text by a numbered token;
refinement later replaces the tokens by the fragments to keep. Both extremes,
every fragment kept and every fragment dropped, are checked when the statement
is built.
-/

namespace NamedSql

inductive Part where
  | sql (text : String)
  | clause (key fragment : String) (policy : Policy)
deriving DecidableEq, Repr

structure Declaration where
  id : String
  kind : StatementKind
  parts : List Part
deriving DecidableEq, Repr

/-- The token with the given number, between two characters that SQL has no use
for. -/
def clauseToken (number : Nat) : String :=
  String.ofList ('\x00' :: Nat.toDigits 10 number ++ ['\x00'])

namespace Statement

/-- Replaces each clause's token by its fragment or by nothing, one clause after
the other. -/
def spliceText (keep : Clause → Bool) : List Clause → List Char → List Char
  | [], text => text
  | clause :: rest, text =>
      spliceText keep rest
        (Text.replaceAll clause.token.toList
          (if keep clause then clause.fragment.toList else []) text)

def splice (keep : Clause → Bool) (s : Statement) : Statement :=
  { s with text := String.ofList (spliceText keep s.clauses s.text.toList) }

/-- The names that a caller supplied, or nothing if the call is not by name. -/
abbrev Presence := Option (List String)

/-- Without names every clause is dropped, whatever its policy. -/
def keeps (presence : Presence) (clause : Clause) : Bool :=
  match presence with
  | none => false
  | some names =>
      match clause.policy with
      | .present => names.contains clause.key
      | .absent => !names.contains clause.key

/-- Settles every clause for the names that were supplied, and normalizes what
is left. The clauses stay listed. -/
def refine (dialect : Dialect) (presence : Presence) (s : Statement) :
    Except StatementError Statement :=
  (s.splice (keeps presence)).normalize dialect

end Statement

namespace Declaration

/-- The text of the parts with tokens numbered from `used + 1`, the clauses they
stand for, and the last number used. -/
def assemble (used : Nat) : List Part → String × List Clause × Nat
  | [] => ("", [], used)
  | .sql text :: rest =>
      let (tail, clauses, last) := assemble used rest
      (text ++ tail, clauses, last)
  | .clause key fragment policy :: rest =>
      let token := clauseToken (used + 1)
      let (tail, clauses, last) := assemble (used + 1) rest
      (token ++ tail, ⟨token, key, fragment, policy⟩ :: clauses, last)

/-- Builds the statement. Numbers stay used even if a later check fails; an
element that carries no SQL is refused before any is used. -/
def build (dialect : Dialect) (used : Nat) (d : Declaration) :
    Except StatementError Statement × Nat :=
  if !d.kind.isSql then (.error (.notRegistrable d.id d.kind), used)
  else
    let (text, clauses, last) := assemble used d.parts
    let s := Statement.raw d.id d.kind text clauses
    if s.hasCondition then
      let outcome := do
        let _ ← (s.splice fun _ => true).normalize dialect
        let _ ← (s.splice fun _ => false).normalize dialect
        return s
      (outcome, last)
    else (s.normalize dialect, last)

end Declaration

end NamedSql
