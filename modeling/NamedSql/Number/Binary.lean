import NamedSql.Number.Power

/-!
Binary floating point numbers as bit patterns. The value of a finite number is a
natural number of units of the format's smallest positive number, so rounding
and comparison are exact arithmetic on natural numbers.
-/

namespace NamedSql

/-- A binary interchange format: the bits of the significand, the hidden one
included, and the width of the exponent field. -/
structure BinaryFormat where
  precision : Nat
  exponentWidth : Nat

namespace BinaryFormat

def double : BinaryFormat := ⟨53, 11⟩

def single : BinaryFormat := ⟨24, 8⟩

/-- The smallest positive number of the format is `2 ^ -unit`. -/
def unit (format : BinaryFormat) : Nat :=
  twoTo (format.exponentWidth - 1) + format.precision - 3

def fractionSize (format : BinaryFormat) : Nat :=
  twoTo (format.precision - 1)

/-- The pattern of positive infinity: the exponent field all ones above a zero
fraction. -/
def infinity (format : BinaryFormat) : Nat :=
  (twoTo format.exponentWidth - 1) * format.fractionSize

def signSize (format : BinaryFormat) : Nat :=
  twoTo format.exponentWidth * format.fractionSize

/-- The quiet pattern that stands for every number that is none. -/
def nan (format : BinaryFormat) : Nat :=
  format.infinity + format.fractionSize / 2

/-- The quotient rounded to the nearest natural number, a tie to the even
one. -/
def roundQuotient (num den : Nat) : Nat :=
  let floor := num / den
  let twice := 2 * (num % den)
  if twice < den || (twice == den && floor % 2 == 0) then floor else floor + 1

/-- The pattern of the number nearest to `num / den`, a tie to the even
significand. With `shift` the exponent field less one, a significand of full
precision added to the field's place carries into it, so the sum below is the
pattern; past the largest number stands infinity. -/
def nearest (format : BinaryFormat) (num den : Nat) : Nat :=
  let units := num * twoTo format.unit
  let shift := (units / den).log2 + 1 - format.precision
  min (shift * format.fractionSize + roundQuotient units (den * twoTo shift))
    format.infinity

end BinaryFormat

/-- A number of a format, seen through its pattern: `magnitude * 2 ^ scale`
units. -/
inductive BinaryValue where
  | nan
  | infinite (negative : Bool)
  | finite (negative : Bool) (magnitude scale : Nat)
deriving DecidableEq, Repr

def BinaryFormat.decode (format : BinaryFormat) (pattern : Nat) : BinaryValue :=
  let negative := format.signSize ≤ pattern
  let rest := pattern % format.signSize
  let field := rest / format.fractionSize
  let fraction := rest % format.fractionSize
  if format.infinity ≤ rest then
    if rest = format.infinity then .infinite negative else .nan
  else if field = 0 then .finite negative fraction 0
  else .finite negative (format.fractionSize + fraction) (field - 1)

def BinaryFormat.withSign (format : BinaryFormat) (negative : Bool)
    (pattern : Nat) : Nat :=
  if negative then format.signSize + pattern else pattern

/-- A number of 64 bits. -/
structure Binary64 where
  bits : UInt64
deriving DecidableEq, Repr

/-- A number of 32 bits. -/
structure Binary32 where
  bits : UInt32
deriving DecidableEq, Repr

namespace Binary64

def decode (x : Binary64) : BinaryValue :=
  BinaryFormat.double.decode x.bits.toNat

def ofPattern (negative : Bool) (pattern : Nat) : Binary64 :=
  ⟨UInt64.ofNat (BinaryFormat.double.withSign negative pattern)⟩

def nan : Binary64 :=
  ofPattern false BinaryFormat.double.nan

def zero : Binary64 :=
  ⟨0⟩

def infinity (negative : Bool) : Binary64 :=
  ofPattern negative BinaryFormat.double.infinity

/-- The number nearest to a quotient. -/
def ofRatio (negative : Bool) (num den : Nat) : Binary64 :=
  ofPattern negative (BinaryFormat.double.nearest num den)

/-- The number nearest to an integer. -/
def ofInt (n : Int) : Binary64 :=
  ofRatio (n < 0) n.natAbs 1

end Binary64

namespace Binary32

def decode (x : Binary32) : BinaryValue :=
  BinaryFormat.single.decode x.bits.toNat

def ofPattern (negative : Bool) (pattern : Nat) : Binary32 :=
  ⟨UInt32.ofNat (BinaryFormat.single.withSign negative pattern)⟩

def zero : Binary32 :=
  ⟨0⟩

end Binary32

/-- The nearest number of 32 bits. -/
def Binary64.narrow (x : Binary64) : Binary32 :=
  match x.decode with
  | .nan => .ofPattern false BinaryFormat.single.nan
  | .infinite negative => .ofPattern negative BinaryFormat.single.infinity
  | .finite negative magnitude scale =>
      .ofPattern negative
        (BinaryFormat.single.nearest (magnitude * twoTo scale)
          (twoTo BinaryFormat.double.unit))

/-- Every number of 32 bits is one of 64 bits. -/
def Binary32.widen (x : Binary32) : Binary64 :=
  match x.decode with
  | .nan => .nan
  | .infinite negative => .infinity negative
  | .finite negative magnitude scale =>
      .ofRatio negative (magnitude * twoTo scale)
        (twoTo BinaryFormat.single.unit)

end NamedSql
