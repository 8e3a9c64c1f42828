import NamedSql.Text.Percent

/-!
Texts that are read back: from their bytes, and from the form in which all but
letters, digits and four marks are percent encoded.
-/

namespace NamedSql.Text

section

variable {b₀ b₁ b₂ b₃ : UInt8} {rest : List UInt8} {text : List Char}

/-- The numbers of a byte that follows the first one of its character. -/
def Continues (b : UInt8) : Prop :=
  0x80 ≤ b.toNat ∧ b.toNat ≤ 0xBF

theorem isContinuation_iff (b : UInt8) :
    isContinuation b = true ↔ Continues b := by
  simp only [isContinuation, Continues, UInt8.le_iff_toNat_le, Bool.and_eq_true,
    decide_eq_true_eq]
  rfl

theorem lead_iff (low high b : UInt8) :
    (low ≤ b && b ≤ high) = true ↔
      low.toNat ≤ b.toNat ∧ b.toNat ≤ high.toNat := by
  simp only [UInt8.le_iff_toNat_le, Bool.and_eq_true, decide_eq_true_eq]

theorem decode_one (h₀ : b₀.toNat < 0x80)
    (hrest : ∀ index, decodeUtf8From index rest = .ok text) (index : Nat) :
    decodeUtf8From index (b₀ :: rest) = .ok (Char.ofNat b₀.toNat :: text) := by
  have hsingle : b₀ < 0x80 := UInt8.lt_iff_toNat_lt.mpr h₀
  rw [decodeUtf8From.eq_def]
  simp only [hsingle, if_true, hrest]
  rfl

theorem decode_two (h₀ : 0xC2 ≤ b₀.toNat ∧ b₀.toNat ≤ 0xDF) (h₁ : Continues b₁)
    (hrest : ∀ index, decodeUtf8From index rest = .ok text) (index : Nat) :
    decodeUtf8From index (b₀ :: b₁ :: rest) =
      .ok (charOfPayloads [b₀.toNat % 32, payload b₁] :: text) := by
  have hsingle : ¬b₀ < 0x80 := by
    rw [UInt8.lt_iff_toNat_lt]
    exact Nat.not_lt.mpr (Nat.le_trans (by decide) h₀.1)
  have hlead : (0xC2 ≤ b₀ && b₀ ≤ 0xDF) = true := (lead_iff _ _ _).mpr h₀
  have hnext := (isContinuation_iff b₁).mpr h₁
  rw [decodeUtf8From.eq_def]
  simp only [hsingle, hlead, hnext, if_true, if_false, hrest]
  rfl

theorem isSecondOfThree_of (h₁ : Continues b₁)
    (hlow : b₀.toNat = 0xE0 → 0xA0 ≤ b₁.toNat)
    (hhigh : b₀.toNat = 0xED → b₁.toNat ≤ 0x9F) :
    isSecondOfThree b₀ b₁ = true := by
  rw [isSecondOfThree]
  split
  · next hlead =>
      exact (lead_iff _ _ _).mpr ⟨hlow (congrArg UInt8.toNat hlead), h₁.2⟩
  · split
    · next hlead =>
        exact (lead_iff _ _ _).mpr ⟨h₁.1, hhigh (congrArg UInt8.toNat hlead)⟩
    · exact (isContinuation_iff b₁).mpr h₁

theorem isSecondOfFour_of (h₁ : Continues b₁)
    (hlow : b₀.toNat = 0xF0 → 0x90 ≤ b₁.toNat)
    (hhigh : b₀.toNat = 0xF4 → b₁.toNat ≤ 0x8F) :
    isSecondOfFour b₀ b₁ = true := by
  rw [isSecondOfFour]
  split
  · next hlead =>
      exact (lead_iff _ _ _).mpr ⟨hlow (congrArg UInt8.toNat hlead), h₁.2⟩
  · split
    · next hlead =>
        exact (lead_iff _ _ _).mpr ⟨h₁.1, hhigh (congrArg UInt8.toNat hlead)⟩
    · exact (isContinuation_iff b₁).mpr h₁

theorem decode_three (h₀ : 0xE0 ≤ b₀.toNat ∧ b₀.toNat ≤ 0xEF)
    (h₁ : isSecondOfThree b₀ b₁ = true) (h₂ : Continues b₂)
    (hrest : ∀ index, decodeUtf8From index rest = .ok text) (index : Nat) :
    decodeUtf8From index (b₀ :: b₁ :: b₂ :: rest) =
      .ok (charOfPayloads [b₀.toNat % 16, payload b₁, payload b₂] :: text) := by
  have hsingle : ¬b₀ < 0x80 := by
    rw [UInt8.lt_iff_toNat_lt]
    exact Nat.not_lt.mpr (Nat.le_trans (by decide) h₀.1)
  have htwo : (0xC2 ≤ b₀ && b₀ ≤ 0xDF) = false := by
    rw [← Bool.not_eq_true, lead_iff]
    intro hlead
    exact absurd (Nat.le_trans h₀.1 hlead.2) (by decide)
  have hlead : (0xE0 ≤ b₀ && b₀ ≤ 0xEF) = true := (lead_iff _ _ _).mpr h₀
  have hnext := (isContinuation_iff b₂).mpr h₂
  rw [decodeUtf8From.eq_def]
  simp only [hsingle, htwo, hlead, h₁, hnext, if_true, if_false, hrest,
    Bool.false_eq_true]
  rfl

theorem decode_four (h₀ : 0xF0 ≤ b₀.toNat ∧ b₀.toNat ≤ 0xF4)
    (h₁ : isSecondOfFour b₀ b₁ = true) (h₂ : Continues b₂) (h₃ : Continues b₃)
    (hrest : ∀ index, decodeUtf8From index rest = .ok text) (index : Nat) :
    decodeUtf8From index (b₀ :: b₁ :: b₂ :: b₃ :: rest) =
      .ok (charOfPayloads [b₀.toNat % 8, payload b₁, payload b₂, payload b₃] ::
        text) := by
  have hsingle : ¬b₀ < 0x80 := by
    rw [UInt8.lt_iff_toNat_lt]
    exact Nat.not_lt.mpr (Nat.le_trans (by decide) h₀.1)
  have htwo : (0xC2 ≤ b₀ && b₀ ≤ 0xDF) = false := by
    rw [← Bool.not_eq_true, lead_iff]
    intro hlead
    exact absurd (Nat.le_trans h₀.1 hlead.2) (by decide)
  have hthree : (0xE0 ≤ b₀ && b₀ ≤ 0xEF) = false := by
    rw [← Bool.not_eq_true, lead_iff]
    intro hlead
    exact absurd (Nat.le_trans h₀.1 hlead.2) (by decide)
  have hlead : (0xF0 ≤ b₀ && b₀ ≤ 0xF4) = true := (lead_iff _ _ _).mpr h₀
  have hnext := (isContinuation_iff b₂).mpr h₂
  have hlast := (isContinuation_iff b₃).mpr h₃
  rw [decodeUtf8From.eq_def]
  simp only [hsingle, htwo, hthree, hlead, h₁, hnext, hlast, if_true,
    if_false, hrest, Bool.false_eq_true]
  rfl

end

theorem toNat_byte {n : Nat} (h : n < 256) : (UInt8.ofNat n).toNat = n := by
  rw [UInt8.toNat_ofNat']
  exact Nat.mod_eq_of_lt h

/-- The bytes of a character give the character back, with what is read behind
them. -/
theorem decode_char (c : Char) {rest : List UInt8} {text : List Char}
    (hrest : ∀ index, decodeUtf8From index rest = .ok text) (index : Nat) :
    decodeUtf8From index (String.utf8EncodeChar c ++ rest) =
      .ok (c :: text) := by
  have hchar : c.val.toNat < 0xD800 ∨
      0xDFFF < c.val.toNat ∧ c.val.toNat < 0x110000 := c.valid
  have hback : ∀ n, n = c.val.toNat → Char.ofNat n = c := by
    rintro n rfl
    exact Char.ofNat_toNat c
  rw [String.utf8EncodeChar]
  generalize c.val.toNat = v at hchar hback
  split
  · next hone =>
      have h₀ := toNat_byte (show v < 256 by omega)
      rw [List.singleton_append, decode_one (by omega) hrest, h₀, hback v rfl]
  · split
    · next htwo =>
        have h₀ := toNat_byte (show v / 64 % 32 + 192 < 256 by omega)
        have h₁ := toNat_byte (show v % 64 + 128 < 256 by omega)
        rw [List.cons_append, List.singleton_append,
          decode_two (by omega) ⟨by omega, by omega⟩ hrest]
        simp only [charOfPayloads, payload, h₀, h₁, List.foldl_cons,
          List.foldl_nil]
        rw [hback _ (by omega)]
    · split
      · next hthree =>
          have h₀ := toNat_byte (show v / 4096 % 16 + 224 < 256 by omega)
          have h₁ := toNat_byte (show v / 64 % 64 + 128 < 256 by omega)
          have h₂ := toNat_byte (show v % 64 + 128 < 256 by omega)
          rw [List.cons_append, List.cons_append, List.singleton_append,
            decode_three (by omega)
              (isSecondOfThree_of ⟨by omega, by omega⟩ (by omega) (by omega))
              ⟨by omega, by omega⟩ hrest]
          simp only [charOfPayloads, payload, h₀, h₁, h₂, List.foldl_cons,
            List.foldl_nil]
          rw [hback _ (by omega)]
      · have h₀ := toNat_byte (show v / 262144 % 8 + 240 < 256 by omega)
        have h₁ := toNat_byte (show v / 4096 % 64 + 128 < 256 by omega)
        have h₂ := toNat_byte (show v / 64 % 64 + 128 < 256 by omega)
        have h₃ := toNat_byte (show v % 64 + 128 < 256 by omega)
        rw [List.cons_append, List.cons_append, List.cons_append,
          List.singleton_append,
          decode_four (by omega)
            (isSecondOfFour_of ⟨by omega, by omega⟩ (by omega) (by omega))
            ⟨by omega, by omega⟩ ⟨by omega, by omega⟩ hrest]
        simp only [charOfPayloads, payload, h₀, h₁, h₂, h₃, List.foldl_cons,
          List.foldl_nil]
        rw [hback _ (by omega)]

theorem decodeUtf8From_toUtf8 (text : List Char) (index : Nat) :
    decodeUtf8From index (toUtf8 text) = .ok text := by
  induction text generalizing index with
  | nil => rfl
  | cons c rest ih => exact decode_char c ih index

theorem decodeUtf8_toUtf8 (text : List Char) :
    decodeUtf8 (toUtf8 text) = .ok text :=
  decodeUtf8From_toUtf8 text 0

/-- Characters that stand for themselves in every encoded text. -/
def isUnreserved (c : Char) : Bool :=
  c.isAlphanum || ['-', '.', '_', '~'].contains c

def hexDigit (n : Nat) : Char :=
  if n < 10 then Char.ofNat (n + 0x30) else Char.ofNat (n + 0x37)

def percentEncodeByte (b : UInt8) : List Char :=
  if isUnreserved (Char.ofNat b.toNat) then [Char.ofNat b.toNat]
  else ['%', hexDigit (b.toNat / 16), hexDigit (b.toNat % 16)]

/-- The form of a text in which every byte of any other character is written as
an escape. -/
def percentEncode (text : List Char) : List Char :=
  (toUtf8 text).flatMap percentEncodeByte

theorem toUtf8_append (left right : List Char) :
    toUtf8 (left ++ right) = toUtf8 left ++ toUtf8 right :=
  List.flatMap_append

theorem toUtf8_ascii {n : Nat} (h : n < 0x80) :
    toUtf8 [Char.ofNat n] = [UInt8.ofNat n] := by
  have hval : (Char.ofNat n).val.toNat = n := by
    have hvalid : n.isValidChar := .inl (by omega)
    rw [Char.ofNat, dif_pos hvalid]
    rfl
  rw [toUtf8, List.flatMap_singleton, String.utf8EncodeChar, hval]
  exact if_pos (by omega)

/-- The byte of a hexadecimal digit. -/
def hexByte (n : Nat) : UInt8 :=
  UInt8.ofNat (if n < 10 then n + 0x30 else n + 0x37)

theorem toUtf8_hexDigit {n : Nat} (h : n < 16) :
    toUtf8 [hexDigit n] = [hexByte n] := by
  rw [hexDigit, hexByte]
  split
  · exact toUtf8_ascii (by omega)
  · exact toUtf8_ascii (by omega)

theorem hexValue?_hexByte :
    ∀ n < 16, hexValue? (hexByte n) = some (UInt8.ofNat n) := by
  decide

theorem leadingByte?_hexBytes (b : UInt8) (rest : List UInt8) :
    leadingByte? (hexByte (b.toNat / 16) :: hexByte (b.toNat % 16) :: rest) =
      some b := by
  have hb := b.toNat_lt
  have hhigh := hexValue?_hexByte (b.toNat / 16) (by omega)
  have hlow := hexValue?_hexByte (b.toNat % 16) (by omega)
  have hsum :
      UInt8.ofNat (b.toNat / 16) * 16 + UInt8.ofNat (b.toNat % 16) = b := by
    rw [← UInt8.toNat_inj, UInt8.toNat_add, UInt8.toNat_mul,
      toNat_byte (by omega), toNat_byte (by omega)]
    change (b.toNat / 16 * 16 % 256 + b.toNat % 16) % 256 = b.toNat
    omega
  simp only [leadingByte?, hhigh, hlow, Option.bind_eq_bind,
    Option.bind_some, hsum]

theorem toNat_lt_of_isUnreserved {n : Nat} (hn : n < 256)
    (h : isUnreserved (Char.ofNat n) = true) : n < 0x80 ∧ n ≠ 0x25 := by
  have hall :
      ∀ n < 256, isUnreserved (Char.ofNat n) = true → n < 0x80 ∧ n ≠ 0x25 := by
    decide +kernel
  exact hall n hn h

/-- An encoded byte is read back, and then what is behind it. -/
theorem percentDecodeFrom_encodeByte (b : UInt8) (rest : List UInt8) :
    percentDecodeFrom 0 (toUtf8 (percentEncodeByte b) ++ rest) =
      b :: percentDecodeFrom 0 rest := by
  have hb := b.toNat_lt
  rw [percentEncodeByte]
  split
  · next hplain =>
      obtain ⟨hascii, hmark⟩ := toNat_lt_of_isUnreserved hb hplain
      have hne : b ≠ 0x25 := fun hmarked => hmark (congrArg UInt8.toNat hmarked)
      rw [toUtf8_ascii hascii, UInt8.ofNat_toNat, List.singleton_append,
        percentDecodeFrom, if_neg hne]
  · have hbytes :
        toUtf8 ['%', hexDigit (b.toNat / 16), hexDigit (b.toNat % 16)] =
          [0x25, hexByte (b.toNat / 16), hexByte (b.toNat % 16)] := by
      have hhigh := toUtf8_hexDigit (show b.toNat / 16 < 16 by omega)
      have hlow := toUtf8_hexDigit (show b.toNat % 16 < 16 by omega)
      have hmark : toUtf8 ['%'] = [0x25] := by decide
      have happend : ∀ c d e : Char,
          toUtf8 [c, d, e] = toUtf8 [c] ++ (toUtf8 [d] ++ toUtf8 [e]) := by
        intro c d e
        rw [← toUtf8_append, ← toUtf8_append]
        rfl
      rw [happend, hmark, hhigh, hlow]
      rfl
    rw [hbytes]
    simp only [List.cons_append, List.nil_append, percentDecodeFrom, if_true,
      leadingByte?_hexBytes]

theorem percentDecodeFrom_encodeBytes (bytes : List UInt8) :
    percentDecodeFrom 0 (toUtf8 (bytes.flatMap percentEncodeByte)) = bytes := by
  induction bytes with
  | nil => rfl
  | cons b rest ih =>
      rw [List.flatMap_cons, toUtf8_append, percentDecodeFrom_encodeByte, ih]

/-- Every text is read back from its percent-encoded form. -/
theorem percentDecode_percentEncode (text : List Char) :
    percentDecode (percentEncode text) = .ok text := by
  rw [percentDecode, percentEncode, percentDecodeFrom_encodeBytes,
    decodeUtf8_toUtf8]

/-- The form holds nothing but unreserved characters and the signs of
escapes. -/
theorem isUnreserved_of_mem_percentEncode {text : List Char} {c : Char}
    (h : c ∈ percentEncode text) : isUnreserved c = true ∨ c = '%' := by
  obtain ⟨b, -, hmem⟩ := List.mem_flatMap.mp h
  have hdigit : ∀ n < 16, isUnreserved (hexDigit n) = true := by decide
  have hb := b.toNat_lt
  rw [percentEncodeByte] at hmem
  split at hmem
  · next hplain => exact .inl (List.mem_singleton.mp hmem ▸ hplain)
  · rcases List.mem_cons.mp hmem with hmark | hmem
    · exact .inr hmark
    · left
      rcases List.mem_cons.mp hmem with rfl | hmem
      · exact hdigit _ (by omega)
      · exact List.mem_singleton.mp hmem ▸ hdigit _ (by omega)

end NamedSql.Text
