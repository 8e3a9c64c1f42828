import NamedSql.Number.Binary

/-!
Decimal numbers by way of their leading digits. The digits that fit into 64 bits
are rounded to a floating point number, and that is scaled by a power of ten,
which is rounded too. Short numbers come out as the nearest ones; of long ones
the last bit may differ.
-/

namespace NamedSql

/-- The leading digits that fit into 64 bits, and the number of digits behind
them. -/
def leadingDigits (n : Nat) : Nat × Nat :=
  if h : twoTo 64 ≤ n then
    have : n / 10 < n :=
      Nat.div_lt_self (Nat.lt_of_lt_of_le (by decide) h) (by decide)
    let (digits, dropped) := leadingDigits (n / 10)
    (digits, dropped + 1)
  else (n, 0)
termination_by n

namespace Binary64

/-- The largest power of ten that is a finite number. -/
def largestPower : Nat := 308

def powerOfTen (exponent : Nat) : Binary64 :=
  ofRatio false (tenTo exponent) 1

def timesPower (exponent : Nat) (x : Binary64) : Binary64 :=
  match x.decode, (powerOfTen exponent).decode with
  | .finite negative magnitude scale, .finite _ factor factorScale =>
      ofRatio negative (magnitude * twoTo scale * (factor * twoTo factorScale))
        (twoTo (2 * BinaryFormat.double.unit))
  | _, _ => x

def overPower (exponent : Nat) (x : Binary64) : Binary64 :=
  match x.decode, (powerOfTen exponent).decode with
  | .finite negative magnitude scale, .finite _ divisor divisorScale =>
      ofRatio negative (magnitude * twoTo scale) (divisor * twoTo divisorScale)
  | _, _ => x

/-- Powers beyond the largest are divided out in steps. -/
def overPowers (exponent : Nat) (x : Binary64) : Binary64 :=
  let steps := (exponent - 1) / largestPower
  overPower (exponent - largestPower * steps)
    (Nat.repeat (overPower largestPower) steps x)

/-- The number `mantissa * 10 ^ -places`. -/
def ofScaled (mantissa : Int) (places : Nat) : Binary64 :=
  let (digits, dropped) := leadingDigits mantissa.natAbs
  let x := ofRatio (mantissa < 0) digits 1
  if places ≤ dropped then timesPower (dropped - places) x
  else overPowers (places - dropped) x

end Binary64

end NamedSql
