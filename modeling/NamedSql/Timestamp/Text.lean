import NamedSql.Timestamp.Basic
import NamedSql.Number.Reading
import NamedSql.Text.Blank

/-!
The text of a timestamp: `year-month-day hour:minute:second` with a fraction of
three, six or nine digits if there is one. A leap second is written as second
60. Reading takes fields of any width up to the full one and white space in
front of every number.
-/

namespace NamedSql

def padded (width n : Nat) : List Char :=
  let digits := Nat.toDigits 10 n
  List.replicate (width - digits.length) '0' ++ digits

/-- Years of at most four digits are written plainly, all others with a sign. -/
def yearDigits (year : Int) : List Char :=
  if 0 ≤ year ∧ year ≤ 9999 then padded 4 year.toNat
  else (if year < 0 then '-' else '+') :: padded 4 year.natAbs

/-- The fewest of three, six and nine digits that lose nothing. -/
def fractionDigits (nanos : Nat) : List Char :=
  if nanos = 0 then []
  else if nanos % 1000000 = 0 then '.' :: padded 3 (nanos / 1000000)
  else if nanos % 1000 = 0 then '.' :: padded 6 (nanos / 1000)
  else '.' :: padded 9 nanos

namespace Timestamp

/-- The written form with the given character between date and time. -/
def render (separator : Char) (t : Timestamp) : List Char :=
  let c := t.civil
  yearDigits c.year ++ '-' :: padded 2 c.month ++ '-' :: padded 2 c.day ++
    separator :: padded 2 c.hour ++ ':' :: padded 2 c.minute ++
    ':' :: padded 2 (c.second + c.nanos / 1000000000) ++
    fractionDigits (c.nanos % 1000000000)

def text (t : Timestamp) : String :=
  String.ofList (t.render ' ')

/-- At least one digit and at most `limit`. -/
def readDigits? (limit : Nat) (text : List Char) : Option (Nat × List Char) :=
  let digits := (spanDigits text).1.take limit
  if digits.isEmpty then none
  else some (digitsValue digits, text.drop digits.length)

/-- A year of up to four digits, or of any number of them behind a sign. -/
def readYear? (text : List Char) : Option (Int × List Char) :=
  match Text.trimStart text with
  | '-' :: rest =>
      (readDigits? rest.length rest).map fun (n, rest) => (-(n : Int), rest)
  | '+' :: rest =>
      (readDigits? rest.length rest).map fun (n, rest) => ((n : Int), rest)
  | rest => (readDigits? 4 rest).map fun (n, rest) => ((n : Int), rest)

/-- A field of up to two digits. -/
def readField? (text : List Char) : Option (Nat × List Char) :=
  readDigits? 2 (Text.trimStart text)

def readMark? (mark : Char) : List Char → Option (List Char)
  | c :: rest => if c = mark then some rest else none
  | [] => none

/-- The fraction of a second in nanoseconds: digits past the ninth are passed
over. -/
def readFraction? : List Char → Option (Nat × List Char)
  | '.' :: rest =>
      (readDigits? 9 rest).map fun (n, _) =>
        let (digits, after) := spanDigits rest
        (n * tenTo (9 - min 9 digits.length), after)
  | rest => some (0, rest)

/-- Reads a whole text. Second 60 is the leap second behind second 59. -/
def read? (text : List Char) : Option Timestamp := do
  let (year, rest) ← readYear? text
  let rest ← readMark? '-' rest
  let (month, rest) ← readField? rest
  let rest ← readMark? '-' rest
  let (day, rest) ← readField? rest
  let (hour, rest) ← readField? (Text.trimStart rest)
  let rest ← readMark? ':' rest
  let (minute, rest) ← readField? rest
  let rest ← readMark? ':' rest
  let (second, rest) ← readField? rest
  let (nanos, rest) ← readFraction? rest
  if rest.isEmpty then
    if second = 60 then
      ofCivil? ⟨year, month, day, hour, minute, 59, 1000000000 + nanos⟩
    else ofCivil? ⟨year, month, day, hour, minute, second, nanos⟩
  else none

end Timestamp

end NamedSql
