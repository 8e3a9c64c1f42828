/-!
UTF-8: the bytes of a text, and reading bytes back with the place of the first
fault. A byte sequence that ends too early is told apart from one that can never
become a character.
-/

namespace NamedSql.Text

inductive Utf8Error where
  | invalid (length index : Nat)
  | incomplete (index : Nat)
deriving DecidableEq, Repr

def Utf8Error.message : Utf8Error → String
  | .invalid length index =>
      s!"invalid utf-8 sequence of {length} bytes from index {index}"
  | .incomplete index => s!"incomplete utf-8 byte sequence from index {index}"

def toUtf8 (text : List Char) : List UInt8 :=
  text.flatMap String.utf8EncodeChar

/-- The number of bytes that a text takes. -/
def utf8Width : List Char → Nat
  | [] => 0
  | c :: rest => c.utf8Size + utf8Width rest

/-- Cuts a text where `count` bytes have passed. A cut inside a character falls
behind it. -/
def splitAtByte : Nat → List Char → List Char × List Char
  | _, [] => ([], [])
  | count, c :: rest =>
      if count = 0 then ([], c :: rest)
      else
        let (before, after) := splitAtByte (count - c.utf8Size) rest
        (c :: before, after)

def isContinuation (b : UInt8) : Bool :=
  0x80 ≤ b && b ≤ 0xBF

/-- The second byte of a three-byte form: overlong forms and surrogates are
refused here. -/
def isSecondOfThree (lead second : UInt8) : Bool :=
  if lead = 0xE0 then 0xA0 ≤ second && second ≤ 0xBF
  else if lead = 0xED then 0x80 ≤ second && second ≤ 0x9F
  else isContinuation second

/-- The second byte of a four-byte form: overlong forms and values past U+10FFFF
are refused here. -/
def isSecondOfFour (lead second : UInt8) : Bool :=
  if lead = 0xF0 then 0x90 ≤ second && second ≤ 0xBF
  else if lead = 0xF4 then 0x80 ≤ second && second ≤ 0x8F
  else isContinuation second

def charOfPayloads (payloads : List Nat) : Char :=
  Char.ofNat (payloads.foldl (fun acc payload => acc * 64 + payload) 0)

def payload (b : UInt8) : Nat :=
  b.toNat % 64

def decodeUtf8From (index : Nat) : List UInt8 → Except Utf8Error (List Char)
  | [] => .ok []
  | b₀ :: rest =>
      if b₀ < 0x80 then
        (Char.ofNat b₀.toNat :: ·) <$> decodeUtf8From (index + 1) rest
      else if 0xC2 ≤ b₀ && b₀ ≤ 0xDF then
        match rest with
        | [] => .error (.incomplete index)
        | b₁ :: rest =>
            if isContinuation b₁ then
              (charOfPayloads [b₀.toNat % 32, payload b₁] :: ·) <$>
                decodeUtf8From (index + 2) rest
            else .error (.invalid 1 index)
      else if 0xE0 ≤ b₀ && b₀ ≤ 0xEF then
        match rest with
        | [] => .error (.incomplete index)
        | b₁ :: rest =>
            if isSecondOfThree b₀ b₁ then
              match rest with
              | [] => .error (.incomplete index)
              | b₂ :: rest =>
                  if isContinuation b₂ then
                    (charOfPayloads
                        [b₀.toNat % 16, payload b₁, payload b₂] :: ·) <$>
                      decodeUtf8From (index + 3) rest
                  else .error (.invalid 2 index)
            else .error (.invalid 1 index)
      else if 0xF0 ≤ b₀ && b₀ ≤ 0xF4 then
        match rest with
        | [] => .error (.incomplete index)
        | b₁ :: rest =>
            if isSecondOfFour b₀ b₁ then
              match rest with
              | [] => .error (.incomplete index)
              | b₂ :: rest =>
                  if isContinuation b₂ then
                    match rest with
                    | [] => .error (.incomplete index)
                    | b₃ :: rest =>
                        if isContinuation b₃ then
                          (charOfPayloads
                              [b₀.toNat % 8, payload b₁, payload b₂,
                                payload b₃] :: ·) <$>
                            decodeUtf8From (index + 4) rest
                        else .error (.invalid 3 index)
                  else .error (.invalid 2 index)
            else .error (.invalid 1 index)
      else .error (.invalid 1 index)

def decodeUtf8 (bytes : List UInt8) : Except Utf8Error (List Char) :=
  decodeUtf8From 0 bytes

end NamedSql.Text
