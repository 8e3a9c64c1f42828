import NamedSql.Number.Binary

/-!
The shortest decimal text of a floating point number. Among the decimals that
read back as the number, those on the coarsest grid of a power of ten have the
fewest digits; of these the nearest is taken, and of two equally near the
larger. The text is positional whatever the size of the number.
-/

namespace NamedSql

/-- The decimal `digits * 10 ^ exponent`. -/
structure Decimal where
  digits : Nat
  exponent : Int
deriving DecidableEq, Repr

/-- The reals that round to a number, in quarters of its format's unit: from
`low` to `high` around `value`, the ends included or not. -/
structure RoundingInterval where
  low : Nat
  value : Nat
  high : Nat
  closed : Bool
deriving DecidableEq, Repr

/-- Half a step reaches up; half a step reaches down, but only a quarter where
the numbers below lie twice as dense. An even significand draws the ties at both
ends. -/
def RoundingInterval.of (format : BinaryFormat) (magnitude scale : Nat) :
    RoundingInterval :=
  let below := if magnitude = format.fractionSize ∧ 0 < scale then 1 else 2
  let step := twoTo scale
  ⟨(4 * magnitude - below) * step, 4 * magnitude * step,
    (4 * magnitude + 2) * step, magnitude % 2 == 0⟩

def RoundingInterval.scale (interval : RoundingInterval) (factor : Nat) :
    RoundingInterval :=
  { interval with
    low := interval.low * factor
    value := interval.value * factor
    high := interval.high * factor }

def RoundingInterval.contains (interval : RoundingInterval) (n : Nat) : Bool :=
  if interval.closed then interval.low ≤ n && n ≤ interval.high
  else interval.low < n && n < interval.high

/-- The multiple of `cell` in the interval that is nearest to its value, as a
count of cells. If any multiple lies inside, so does one of the two around the
value. -/
def RoundingInterval.nearestMultiple? (interval : RoundingInterval)
    (cell : Nat) : Option Nat :=
  let below := interval.value / cell
  let above := below + 1
  let belowInside := interval.contains (below * cell)
  let aboveInside := interval.contains (above * cell)
  if belowInside && aboveInside then
    if 2 * (interval.value % cell) < cell then some below else some above
  else if belowInside then some below
  else if aboveInside then some above
  else none

/-- Tries the grids of `10 ^ exponent` from coarse to fine, at most `fuel` of
them. -/
def shortestFrom (quarterUnits : Nat) (interval : RoundingInterval) :
    Nat → Int → Decimal
  | 0, exponent => ⟨0, exponent⟩
  | fuel + 1, exponent =>
      let hit :=
        if 0 ≤ exponent then
          interval.nearestMultiple? (quarterUnits * tenTo exponent.toNat)
        else
          (interval.scale (tenTo (-exponent).toNat)).nearestMultiple?
            quarterUnits
      match hit with
      | some digits => ⟨digits, exponent⟩
      | none => shortestFrom quarterUnits interval fuel (exponent - 1)

/-- The shortest decimal of a positive finite number. The grid of `10 ^ -unit`
holds the number itself, so the search ends. -/
def shortestDecimal (format : BinaryFormat) (magnitude scale : Nat) : Decimal :=
  let quarterUnits := 4 * twoTo format.unit
  let interval := RoundingInterval.of format magnitude scale
  let start := (Nat.toDigits 10 (interval.value / quarterUnits)).length
  shortestFrom quarterUnits interval (start + format.unit + 1) start

/-- Positional digits: trailing zeros fill up to the point, and a point stands
only before a fraction. -/
def Decimal.positional (d : Decimal) : List Char :=
  if 0 ≤ d.exponent then
    Nat.toDigits 10 d.digits ++ List.replicate d.exponent.toNat '0'
  else
    let places := (-d.exponent).toNat
    let fraction := Nat.toDigits 10 (d.digits % tenTo places)
    Nat.toDigits 10 (d.digits / tenTo places) ++
      '.' :: List.replicate (places - fraction.length) '0' ++ fraction

def Binary64.text (x : Binary64) : String :=
  match x.decode with
  | .nan => "NaN"
  | .infinite negative => if negative then "-inf" else "inf"
  | .finite negative magnitude scale =>
      let digits :=
        if magnitude = 0 then ['0']
        else (shortestDecimal .double magnitude scale).positional
      String.ofList (if negative then '-' :: digits else digits)

end NamedSql
