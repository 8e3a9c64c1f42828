import NamedSql.Text.CaseTable
import NamedSql.Text.AlphanumericTable

/-!
Letters, digits and case. The ASCII half is spelled out; beyond it the tables
decide. The full mappings may turn one character into several, so they return
lists.
-/

namespace NamedSql.Text

def isAscii (c : Char) : Bool :=
  c.toNat < 0x80

def inRanges (ranges : List (Nat × Nat)) (c : Char) : Bool :=
  ranges.any fun (first, last) => first ≤ c.toNat && c.toNat ≤ last

def inRuns (runs : List (Nat × Nat × Nat)) (c : Char) : Bool :=
  runs.any fun (first, last, step) =>
    first ≤ c.toNat && c.toNat ≤ last && (c.toNat - first) % step == 0

/-- Looks a character up among those with several images, then in the runs; any
other maps to itself. -/
def mapCase (runs : List (Nat × Nat × Nat × Int))
    (expansions : List (Nat × List Nat)) (c : Char) : List Char :=
  match expansions.lookup c.toNat with
  | some images => images.map Char.ofNat
  | none =>
      match runs.find? fun (first, last, step, _) =>
          first ≤ c.toNat && c.toNat ≤
              last && (c.toNat - first) % step == 0 with
      | some (_, _, _, offset) => [Char.ofNat (c.toNat + offset).toNat]
      | none => [c]

def isUpper (c : Char) : Bool :=
  if isAscii c then c.isUpper else inRuns upperCaseRuns c

def isLower (c : Char) : Bool :=
  if isAscii c then c.isLower else inRuns lowerCaseRuns c

def isAlphanumeric (c : Char) : Bool :=
  if isAscii c then c.isAlphanum else inRanges alphanumericRanges c

def upperCase (c : Char) : List Char :=
  if isAscii c then [c.toUpper] else mapCase toUpperRuns toUpperExpansions c

def lowerCase (c : Char) : List Char :=
  if isAscii c then [c.toLower] else mapCase toLowerRuns toLowerExpansions c

/-- Upper case of a whole text. No rule of it looks at the neighbours of a
character. -/
def toUpper (text : String) : String :=
  String.ofList (text.toList.flatMap upperCase)

/-- Lower case of the ASCII letters alone. -/
def toAsciiLower (text : String) : String :=
  text.map Char.toLower

end NamedSql.Text
