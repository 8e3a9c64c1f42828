import NamedSql.Text.Quoted

/-!
The JSON form of a text: control characters, quotes and backslashes are escaped
and all else stands for itself.
-/

namespace NamedSql.Text

def escapeJson (c : Char) : List Char :=
  if c = '"' || c = '\\' then ['\\', c]
  else if c = '\x08' then ['\\', 'b']
  else if c = '\x0c' then ['\\', 'f']
  else if c = '\n' then ['\\', 'n']
  else if c = '\r' then ['\\', 'r']
  else if c = '\t' then ['\\', 't']
  else if c.toNat < 0x20 then
    let digits := hexDigits c.toNat
    ['\\', 'u'] ++ List.replicate (4 - digits.length) '0' ++ digits
  else [c]

def jsonQuoted (text : List Char) : String :=
  String.ofList ('"' :: text.flatMap escapeJson ++ ['"'])

end NamedSql.Text
