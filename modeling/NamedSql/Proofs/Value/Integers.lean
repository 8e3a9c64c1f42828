import NamedSql.Proofs.Number.Numerals
import NamedSql.Proofs.Text.Separators
import NamedSql.Value.Convert

/-!
Integers read from texts. All integer types go through 64 bits with a sign, so a
decimal text with any blanks around it is read as its integer if that fits these
64 bits and the type, and overflows the type if it only fits the 64 bits. What
lies beyond them is found only among the numbers of 64 bits without a sign, and
is refused as no integer at all.
-/

namespace NamedSql

namespace IntegerText

variable {numeral : List Char} {n : Int}

/-- No blank stands in a decimal text, so trimming leaves it. -/
theorem trim_eq (h : IntegerText numeral n) : Text.trim numeral = numeral := by
  have hdigits :
      ∀ {value digits}, DigitsOf value digits → Text.FreeOf [] digits :=
    fun h => Text.freeOf_of_isDigit nofun h.isDigit
  have hfree : Text.FreeOf [] numeral := by
    cases h with
    | numeral h =>
        obtain ⟨digits, hall, rfl | rfl⟩ := numeral_iff.mp h
        · exact hdigits hall
        · exact (hdigits hall).cons (by decide)
    | negative h => exact (hdigits h).cons (by decide)
  exact hfree.trim_eq

theorem intText (n : Int) : IntegerText (Value.intText n).toList n := by
  rw [Value.intText, String.toList_ofList]
  split
  · next hnegative =>
      have htext := negative (digitsOf_toDigits n.natAbs)
      rw [Int.ofNat_natAbs_of_nonpos (Int.le_of_lt hnegative), Int.neg_neg]
        at htext
      exact htext
  · next hpositive =>
      have htext := numeral (numeral_toDigits n.natAbs)
      rw [Int.natAbs_of_nonneg (Int.not_lt.mp hpositive)] at htext
      exact htext

end IntegerText

/-- All types but that of 64 bits without a sign lie within 64 bits with one. -/
theorem int64_contains_of_ne_uint64 {type : IntegerType} {n : Int}
    (hne : type ≠ .uint64) (hrange : type.range.contains n = true) :
    int64.contains n = true := by
  have hlowest : int64.lowest ≤ type.range.lowest := by cases type <;> decide
  have hhighest : type.range.highest ≤ int64.highest := by
    cases type with
    | uint64 => exact absurd rfl hne
    | _ => decide
  obtain ⟨hlow, hhigh⟩ := IntegerRange.contains_iff.mp hrange
  exact IntegerRange.contains_iff.mpr
    ⟨Int.le_trans hlowest hlow, Int.le_trans hhigh hhighest⟩

namespace Value

variable {numeral before after : List Char} {s : String} {n : Int}

theorem toInt64_of_integerText (h : IntegerText (Text.trim s.toList) n) :
    (text s).toInt64 =
      if int64.contains n = true then .ok n
      else .error (.mismatch "text" "i64") := by
  have hread : ∀ m, int64.read? (Text.trim s.toList) = some m ↔
      int64.contains m = true ∧ IntegerText (Text.trim s.toList) m :=
    fun _ => IntegerRange.read?_eq_some_iff_of_neg (by decide) (by decide)
  rw [toInt64]
  split
  · next m hm =>
      obtain ⟨hcontains, htext⟩ := (hread m).mp hm
      rw [h.unique htext, if_pos hcontains]
  · next hnone =>
      rw [if_neg]
      intro hcontains
      rw [(hread n).mpr ⟨hcontains, h⟩] at hnone
      cases hnone

/-- A decimal text fits 64 bits with a sign and the type, or the former alone,
or neither. -/
theorem toInteger_of_integerText (type : IntegerType)
    (hbefore : ∀ c ∈ before, Text.isBlank c = true)
    (hafter : ∀ c ∈ after, Text.isBlank c = true) (h : IntegerText numeral n) :
    (text (String.ofList (before ++ numeral ++ after))).toInteger type =
      if int64.contains n = true then
        if type.range.contains n = true then .ok n
        else .error (.overflow n type.name)
      else .error (.mismatch "text" "i64") := by
  have htext :
      IntegerText
        (Text.trim (String.ofList (before ++ numeral ++ after)).toList) n := by
    rw [String.toList_ofList, Text.trim_between hbefore hafter, h.trim_eq]
    exact h
  rw [toInteger, toInt64_of_integerText htext]
  by_cases hcontains : int64.contains n = true
  · rw [if_pos hcontains, if_pos hcontains]
  · rw [if_neg hcontains, if_neg hcontains]

/-- An integer type reads the decimal text of each of its numbers within 64 bits
with a sign, and all of its numbers are there but the upper half of 64 bits
without one, whose texts are refused. No decimal text is read as another number:
beyond the type it overflows. -/
theorem toInteger_reads_own_text (type : IntegerType) {before after : List Char}
    (hbefore : ∀ c ∈ before, Text.isBlank c = true)
    (hafter : ∀ c ∈ after, Text.isBlank c = true) :
    let spaced :=
      fun numeral : List Char =>
        text (String.ofList (before ++ numeral ++ after))
    (∀ n, type.range.contains n = true → int64.contains n = true →
      (spaced (intText n).toList).toInteger type = .ok n) ∧
    (∀ n, type.range.contains n = true → int64.contains n = false →
      type = .uint64 ∧
        (spaced (intText n).toList).toInteger type =
          .error (.mismatch "text" "i64")) ∧
    (∀ numeral n, IntegerText numeral n → int64.contains n = true →
      type.range.contains n = false →
        (spaced numeral).toInteger type = .error (.overflow n type.name)) ∧
    ∀ numeral n found, IntegerText numeral n →
      (spaced numeral).toInteger type = .ok found →
      found = n := by
  intro spaced
  have hspaced : ∀ {numeral n}, IntegerText numeral n →
      (spaced numeral).toInteger type = _ :=
    toInteger_of_integerText type hbefore hafter
  refine ⟨?_, ?_, ?_, ?_⟩
  · intro n hrange hwithin
    rw [hspaced (.intText n), if_pos hwithin, if_pos hrange]
  · intro n hrange hbeyond
    constructor
    · by_contra hne
      rw [int64_contains_of_ne_uint64 hne hrange] at hbeyond
      cases hbeyond
    · rw [hspaced (.intText n), if_neg (by simp [hbeyond])]
  · intro numeral n h hwithin hrange
    rw [hspaced h, if_pos hwithin, if_neg (by simp [hrange])]
  · intro numeral n found h hread
    rw [hspaced h] at hread
    split at hread
    · split at hread
      · exact (Except.ok.inj hread).symm
      · cases hread
    · cases hread

theorem toInteger_reads_own_text_of_limits :
    let before := [' ', '\t']
    let after := ['\u00a0', '\n']
    let spaced :=
      fun numeral : List Char =>
        text (String.ofList (before ++ numeral ++ after))
    (∀ c ∈ before, Text.isBlank c = true) ∧
      (∀ c ∈ after, Text.isBlank c = true) ∧
      (spaced (intText (-128)).toList).toInteger .int8 = .ok (-128) ∧
      (spaced (intText 9223372036854775807).toList).toInteger .uint64 =
        .ok 9223372036854775807 ∧
      (spaced (intText 18446744073709551615).toList).toInteger .uint64 =
        .error (.mismatch "text" "i64") ∧
      IntegerText ['-', '0', '1'] (-1) ∧
      (spaced ['-', '0', '1']).toInteger .uint64 =
        .error (.overflow (-1) "u64") := by
  intro before after spaced
  have hbefore : ∀ c ∈ before, Text.isBlank c = true := List.all_eq_true.mp rfl
  have hafter : ∀ c ∈ after, Text.isBlank c = true := List.all_eq_true.mp rfl
  have hnumeral : IntegerText ['-', '0', '1'] (-1) :=
    .negative ⟨List.cons_ne_nil _ _, List.all_eq_true.mp rfl, rfl⟩
  obtain ⟨htiny, -⟩ := toInteger_reads_own_text .int8 hbefore hafter
  obtain ⟨hread, hrefused, hoverflow, -⟩ :=
    toInteger_reads_own_text .uint64 hbefore hafter
  exact ⟨hbefore, hafter, htiny _ rfl rfl, hread _ rfl rfl,
    (hrefused _ rfl rfl).2, hnumeral, hoverflow _ _ hnumeral rfl rfl⟩

/-- Numbers of 64 bits without a sign are not all read from their texts. -/
theorem toInteger_refuses_upper_half :
    ¬∀ (type : IntegerType) (n : Int), type.range.contains n = true →
      (text (intText n)).toInteger type = .ok n := by
  intro hreads
  have hrefused : (text (intText 9223372036854775808)).toInteger .uint64 =
      .error (.mismatch "text" "i64") := by
    decide +kernel
  rw [hreads .uint64 9223372036854775808 rfl] at hrefused
  cases hrefused

end Value

end NamedSql
