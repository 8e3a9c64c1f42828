import NamedSql.Text.Case
import NamedSql.Text.UnprintableTable

/-!
The quoted form of a text: between double quotes, with quotes, backslashes and
characters that do not print on their own escaped.
-/

namespace NamedSql.Text

def hexDigits (n : Nat) : List Char :=
  Nat.toDigits 16 n

def isPrintable (c : Char) : Bool :=
  if isAscii c then 0x20 ≤ c.toNat && c.toNat ≤ 0x7E
  else !inRanges extendingMarkRanges c && !inRanges unprintableRanges c

def escapeQuoted (c : Char) : List Char :=
  if c = '\x00' then ['\\', '0']
  else if c = '\t' then ['\\', 't']
  else if c = '\r' then ['\\', 'r']
  else if c = '\n' then ['\\', 'n']
  else if c = '"' || c = '\\' then ['\\', c]
  else if isPrintable c then [c]
  else ['\\', 'u', '\x7b'] ++ hexDigits c.toNat ++ ['\x7d']

def quoted (text : String) : String :=
  String.ofList ('"' :: text.toList.flatMap escapeQuoted ++ ['"'])

/-- A list in brackets, its items parted by commas. -/
def bracketed (items : List String) : String :=
  "[" ++ ", ".intercalate items ++ "]"

/-- The quoted form of a text that may be missing. -/
def quotedOption : Option String → String
  | none => "None"
  | some text => "Some(" ++ quoted text ++ ")"

end NamedSql.Text
