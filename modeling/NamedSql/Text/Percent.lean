import NamedSql.Text.Utf8

/-!
Percent decoding. A percent sign with two hexadecimal digits behind it stands
for a byte; any other percent sign stands for itself.
-/

namespace NamedSql.Text

def hexValue? (b : UInt8) : Option UInt8 :=
  if 0x30 ≤ b && b ≤ 0x39 then some (b - 0x30)
  else if 0x41 ≤ b && b ≤ 0x46 then some (b - 0x37)
  else if 0x61 ≤ b && b ≤ 0x66 then some (b - 0x57)
  else none

/-- The byte that two leading hexadecimal digits spell. -/
def leadingByte? : List UInt8 → Option UInt8
  | high :: low :: _ => do
      let h ← hexValue? high
      let l ← hexValue? low
      some (h * 16 + l)
  | _ => none

/-- Decodes a byte sequence, passing over the `skip` bytes that an escape has
already used up. -/
def percentDecodeFrom : Nat → List UInt8 → List UInt8
  | _, [] => []
  | skip + 1, _ :: rest => percentDecodeFrom skip rest
  | 0, b :: rest =>
      match if b = 0x25 then leadingByte? rest else none with
      | some byte => byte :: percentDecodeFrom 2 rest
      | none => b :: percentDecodeFrom 0 rest

def percentDecode (text : List Char) : Except Utf8Error (List Char) :=
  decodeUtf8 (percentDecodeFrom 0 (toUtf8 text))

end NamedSql.Text
