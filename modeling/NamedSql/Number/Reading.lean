import NamedSql.Number.Binary
import NamedSql.Number.Integer

/-!
Reading floating point numbers from text: an optional sign, then `inf`,
`infinity` or `nan` in any case, or digits with an optional point and an
optional exponent. At least one digit stands before or behind the point, and the
whole text is used.
-/

namespace NamedSql

def digitsValue (digits : List Char) : Nat :=
  digits.foldl (fun acc c => acc * 10 + (digit? c).getD 0) 0

def spanDigits (text : List Char) : List Char × List Char :=
  text.span fun c => (digit? c).isSome

/-- The number nearest to `digits * 10 ^ exponent`. Far beyond the format's
range the outcome is known without computing the power. -/
def Binary64.ofDecimal (negative : Bool) (digits : Nat) (exponent : Int) :
    Binary64 :=
  let width : Int := (Nat.toDigits 10 digits).length
  if digits = 0 then .ofPattern negative 0
  else if 400 < exponent then .infinity negative
  else if exponent + width < -400 then .ofPattern negative 0
  else if 0 ≤ exponent then .ofRatio negative (digits * tenTo exponent.toNat) 1
  else .ofRatio negative digits (tenTo (-exponent).toNat)

/-- The exponent part: nothing, or a mark, an optional sign and at least one
digit. -/
def readExponent? : List Char → Option Int
  | [] => some 0
  | mark :: rest =>
      if mark = 'e' ∨ mark = 'E' then
        let (negative, digits) :=
          match rest with
          | '-' :: digits => (true, digits)
          | '+' :: digits => (false, digits)
          | digits => (false, digits)
        if digits.isEmpty || !digits.all (fun c => (digit? c).isSome) then none
        else
          let value : Int := digitsValue digits
          some (if negative then -value else value)
      else none

def readMagnitude? (negative : Bool) (text : List Char) : Option Binary64 :=
  let (whole, rest) := spanDigits text
  let (fraction, rest) :=
    match rest with
    | '.' :: rest => spanDigits rest
    | rest => ([], rest)
  if whole.isEmpty && fraction.isEmpty then none
  else do
    let exponent ← readExponent? rest
    some (.ofDecimal negative (digitsValue (whole ++ fraction))
      (exponent - fraction.length))

/-- Reads a whole text as the nearest number of 64 bits. -/
def Binary64.read? (text : List Char) : Option Binary64 :=
  let (negative, body) :=
    match text with
    | '-' :: body => (true, body)
    | '+' :: body => (false, body)
    | body => (false, body)
  let name := String.ofList (body.map Char.toLower)
  if name = "inf" ∨ name = "infinity" then some (.infinity negative)
  else if name = "nan" then some .nan
  else readMagnitude? negative body

end NamedSql
