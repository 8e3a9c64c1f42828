/-!
Timestamps without a time zone on the proleptic Gregorian calendar. A leap
second stands at second 59 with a nanosecond count of a whole second or more.
-/

namespace NamedSql

def isLeapYear (year : Int) : Bool :=
  year % 4 == 0 && (year % 100 != 0 || year % 400 == 0)

def daysInMonth (year : Int) (month : Nat) : Nat :=
  if month = 2 then if isLeapYear year then 29 else 28
  else if month = 4 ∨ month = 6 ∨ month = 9 ∨ month = 11 then 30
  else 31

/-- The fields of a timestamp as they are written. -/
structure CivilTime where
  year : Int
  month : Nat
  day : Nat
  hour : Nat
  minute : Nat
  second : Nat
  nanos : Nat
deriving DecidableEq, Repr

/-- Nanoseconds reach past a whole second only in a leap second. -/
def CivilTime.isValid (t : CivilTime) : Bool :=
  -262143 ≤ t.year && t.year ≤ 262142 &&
  1 ≤ t.month && t.month ≤ 12 &&
  1 ≤ t.day && t.day ≤ daysInMonth t.year t.month &&
  t.hour < 24 && t.minute < 60 && t.second < 60 &&
  (t.nanos < 1000000000 || (t.second == 59 && t.nanos < 2000000000))

structure Timestamp where
  civil : CivilTime
  isValid : civil.isValid = true
deriving DecidableEq, Repr

def Timestamp.ofCivil? (t : CivilTime) : Option Timestamp :=
  if h : t.isValid = true then some ⟨t, h⟩ else none

/-- Midnight of 1 January 1970, the content of a fresh timestamp slot. -/
def Timestamp.epoch : Timestamp :=
  ⟨⟨1970, 1, 1, 0, 0, 0, 0⟩, by decide⟩

instance : Inhabited Timestamp := ⟨.epoch⟩

end NamedSql
