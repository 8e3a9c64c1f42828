import NamedSql.Number.Power

/-!
Reading decimal integers into a bounded range, with the reason when a text has
none.
-/

namespace NamedSql

inductive IntegerError where
  | empty
  | invalidDigit
  | tooLarge
  | tooSmall
deriving DecidableEq, Repr

def IntegerError.message : IntegerError → String
  | .empty => "cannot parse integer from empty string"
  | .invalidDigit => "invalid digit found in string"
  | .tooLarge => "number too large to fit in target type"
  | .tooSmall => "number too small to fit in target type"

/-- The integers from `lowest` to `highest`, both included. -/
structure IntegerRange where
  lowest : Int
  highest : Int
deriving DecidableEq, Repr

namespace IntegerRange

def signed (bits : Nat) : IntegerRange :=
  ⟨-(twoTo (bits - 1) : Int), (twoTo (bits - 1) : Int) - 1⟩

def unsigned (bits : Nat) : IntegerRange :=
  ⟨0, (twoTo bits : Int) - 1⟩

def contains (range : IntegerRange) (n : Int) : Bool :=
  range.lowest ≤ n && n ≤ range.highest

end IntegerRange

def digit? (c : Char) : Option Nat :=
  if '0' ≤ c ∧ c ≤ '9' then some (c.toNat - '0'.toNat) else none

namespace IntegerRange

/-- Adds digits one by one, so the first fault from the left decides: a
character that is no digit, or the digit that leaves the range. -/
def readDigits (range : IntegerRange) (negative : Bool) :
    Int → List Char → Except IntegerError Int
  | acc, [] => .ok acc
  | acc, c :: rest =>
      match digit? c with
      | none => .error .invalidDigit
      | some d =>
          let next := if negative then acc * 10 - d else acc * 10 + d
          if range.highest < next then .error .tooLarge
          else if next < range.lowest then .error .tooSmall
          else readDigits range negative next rest

/-- Reads a whole text. A plus sign may always lead, a minus sign only in a
range that reaches below zero; a sign alone is no number. -/
def read (range : IntegerRange) : List Char → Except IntegerError Int
  | [] => .error .empty
  | ['+'] => .error .invalidDigit
  | ['-'] => .error .invalidDigit
  | '+' :: digits => range.readDigits false 0 digits
  | '-' :: digits =>
      if range.lowest < 0 then range.readDigits true 0 digits
      else .error .invalidDigit
  | digits => range.readDigits false 0 digits

def read? (range : IntegerRange) (text : List Char) : Option Int :=
  (range.read text).toOption

end IntegerRange

def int64 : IntegerRange := .signed 64

end NamedSql
