import NamedSql.Proofs.Number.Digits
import NamedSql.Proofs.Text.Separators
import NamedSql.Value.Convert

/-!
Timestamps read back from their texts. Every field is written with no more
digits than it is read with and is followed by no further digit, a year has a
sign wherever it has not four digits, and a fraction has all the digits that it
needs. So the text of a timestamp is read as that timestamp, leap seconds among
them.
-/

namespace NamedSql

theorem digitsOf_padded (width n : Nat) : DigitsOf n (padded width n) where
  ne_nil := List.append_ne_nil_of_right_ne_nil _ (digitsOf_toDigits n).ne_nil
  isDigit := by
    intro c hmem
    rcases List.mem_append.mp hmem with hmem | hmem
    · rw [List.eq_of_mem_replicate hmem]
      rfl
    · exact (digitsOf_toDigits n).isDigit c hmem
  value_eq := by
    rw [padded, Nat.ofDigitChars_append, Nat.ofDigitChars_replicate_zero,
      Nat.mul_zero, (digitsOf_toDigits n).value_eq]

theorem length_padded {width n : Nat} (hwidth : 0 < width)
    (hn : n < tenTo width) : (padded width n).length = width := by
  have hlength : (Nat.toDigits 10 n).length ≤ width :=
    (Nat.length_toDigits_le_iff (by decide) hwidth).mpr hn
  rw [padded, List.length_append, List.length_replicate]
  omega

theorem DigitsOf.trimStart_append {value : Nat} {digits : List Char}
    (h : DigitsOf value digits) (rest : List Char) :
    Text.trimStart (digits ++ rest) = digits ++ rest := by
  have hfree : Text.FreeOf [] digits := Text.freeOf_of_isDigit nofun h.isDigit
  obtain ⟨c, tail, rfl, -⟩ := h.exists_cons
  have hblank : Text.isBlank c = false := (hfree c List.mem_cons_self).1
  exact List.dropWhile_cons_of_neg (by simp [hblank])

namespace Timestamp

variable {digits rest : List Char} {value limit : Nat}

theorem readDigits?_append (h : DigitsOf value digits)
    (hlimit : digits.length ≤ limit) (hrest : EndsDigits rest) :
    readDigits? limit (digits ++ rest) = some (value, rest) := by
  have htake : digits.take limit = digits := List.take_of_length_le hlimit
  simp only [readDigits?, h.spanDigits_append hrest, htake, h.digitsValue_eq,
    List.drop_left]
  rw [if_neg (by simp [h.ne_nil])]

theorem readField?_padded {n : Nat} (hn : n < 100) (hrest : EndsDigits rest) :
    readField? (padded 2 n ++ rest) = some (n, rest) := by
  have hdigits := digitsOf_padded 2 n
  rw [readField?, hdigits.trimStart_append]
  exact readDigits?_append hdigits (length_padded (by decide) hn).le hrest

theorem readYear?_of_digits (h : DigitsOf value digits)
    (hlength : digits.length ≤ 4) (hrest : EndsDigits rest) :
    readYear? (digits ++ rest) = some ((value : Int), rest) := by
  have hread := readDigits?_append h hlength hrest
  obtain ⟨c, tail, rfl, hc⟩ := h.exists_cons
  rw [readYear?, h.trimStart_append]
  split
  · next heq =>
      cases heq
      cases hc
  · next heq =>
      cases heq
      cases hc
  · rw [hread]
    rfl

theorem readYear?_yearDigits (year : Int) (hrest : EndsDigits rest) :
    readYear? (yearDigits year ++ rest) = some (year, rest) := by
  -- behind a sign the text itself is the only limit
  have hsigned :
      ∀ n, readDigits? (padded 4 n ++ rest).length (padded 4 n ++ rest) =
        some (n, rest) := by
    intro n
    exact readDigits?_append (digitsOf_padded 4 n) (by simp) hrest
  rw [yearDigits]
  split
  · next hplain =>
      have hbound : year.toNat < tenTo 4 := by
        change year.toNat < 10000
        omega
      rw [readYear?_of_digits (digitsOf_padded 4 _)
        (length_padded (by decide) hbound).le hrest,
        Int.toNat_of_nonneg hplain.1]
  · split
    · next hnegative =>
        have hread : readYear? ('-' :: padded 4 year.natAbs ++ rest) =
            some (-(year.natAbs : Int), rest) :=
          congrArg (Option.map _) (hsigned year.natAbs)
        rw [hread, Int.ofNat_natAbs_of_nonpos (Int.le_of_lt hnegative),
          Int.neg_neg]
    · next hpositive =>
        have hread : readYear? ('+' :: padded 4 year.natAbs ++ rest) =
            some ((year.natAbs : Int), rest) :=
          congrArg (Option.map _) (hsigned year.natAbs)
        rw [hread, Int.natAbs_of_nonneg (Int.not_lt.mp hpositive)]

theorem readFraction?_of_digits (h : DigitsOf value digits)
    (hlength : digits.length ≤ 9) :
    readFraction? ('.' :: digits) =
      some (value * tenTo (9 - digits.length), []) := by
  have hread := readDigits?_append h hlength endsDigits_nil
  have hspan := h.spanDigits_append endsDigits_nil
  rw [List.append_nil] at hread hspan
  simp only [readFraction?, hread, hspan, Option.map_some,
    Nat.min_eq_right hlength]

/-- A fraction loses nothing if it is whole in the unit of its last digit. -/
theorem readFraction?_padded {nanos : Nat} (width : Nat) (hpos : 0 < width)
    (hwidth : width ≤ 9) (hnanos : nanos < tenTo 9)
    (hunit : nanos % tenTo (9 - width) = 0) :
    readFraction? ('.' :: padded width (nanos / tenTo (9 - width))) =
      some (nanos, []) := by
  have hpow : tenTo (9 - width) * tenTo width = tenTo 9 := by
    rw [tenTo, tenTo, tenTo, Nat.pow_eq, Nat.pow_eq, Nat.pow_eq, ← Nat.pow_add,
      Nat.sub_add_cancel hwidth]
  rw [← hpow] at hnanos
  have hlength := length_padded hpos (Nat.div_lt_of_lt_mul hnanos)
  rw [readFraction?_of_digits (digitsOf_padded _ _) (hlength.trans_le hwidth),
    hlength, Nat.div_mul_cancel (Nat.dvd_of_mod_eq_zero hunit)]

theorem readFraction?_fractionDigits {nanos : Nat} (h : nanos < 1000000000) :
    readFraction? (fractionDigits nanos) = some (nanos, []) := by
  rw [fractionDigits]
  split
  · next hzero =>
      rw [hzero]
      rfl
  · split
    · next hmillis =>
        exact readFraction?_padded 3 (by decide) (by decide) h hmillis
    · split
      · next hmicros =>
          exact readFraction?_padded 6 (by decide) (by decide) h hmicros
      · have hread :=
          readFraction?_padded 9 (by decide) (by decide) h (Nat.mod_one nanos)
        rw [Nat.sub_self, tenTo, Nat.pow_eq, Nat.pow_zero, Nat.div_one] at hread
        exact hread

theorem endsDigits_fractionDigits (nanos : Nat) :
    EndsDigits (fractionDigits nanos) := by
  rw [fractionDigits]
  split_ifs
  · exact endsDigits_nil
  all_goals exact endsDigits_cons (by decide) _

/-- The fields of a written text are read one after the other. -/
theorem read?_fields (year : Int) {month day hour minute second nanos : Nat}
    (hmonth : month < 100) (hday : day < 100) (hhour : hour < 100)
    (hminute : minute < 100) (hsecond : second < 100)
    (hnanos : nanos < 1000000000) :
    read? (yearDigits year ++ '-' :: padded 2 month ++ '-' :: padded 2 day ++
        ' ' :: padded 2 hour ++ ':' :: padded 2 minute ++ ':' ::
          padded 2 second ++
        fractionDigits nanos) =
      if second = 60 then
        ofCivil? ⟨year, month, day, hour, minute, 59, 1000000000 + nanos⟩
      else ofCivil? ⟨year, month, day, hour, minute, second, nanos⟩ := by
  have hdash : ∀ rest, EndsDigits ('-' :: rest) := endsDigits_cons (by decide)
  have hcolon : ∀ rest, EndsDigits (':' :: rest) := endsDigits_cons (by decide)
  have hblank : ∀ rest, EndsDigits (' ' :: rest) := endsDigits_cons (by decide)
  have htrim : ∀ rest,
      Text.trimStart (' ' :: (padded 2 hour ++ rest)) = padded 2 hour ++ rest :=
    (digitsOf_padded 2 hour).trimStart_append
  simp only [read?, List.append_assoc, List.cons_append,
    readYear?_yearDigits year (hdash _), readField?_padded hmonth (hdash _),
    readField?_padded hday (hblank _), htrim,
    readField?_padded hhour (hcolon _), readField?_padded hminute (hcolon _),
    readField?_padded hsecond (endsDigits_fractionDigits nanos),
    readFraction?_fractionDigits hnanos, readMark?, if_true,
    Option.bind_eq_bind, Option.bind_some, List.isEmpty_nil]

theorem ofCivil?_civil (t : Timestamp) : ofCivil? t.civil = some t :=
  dif_pos t.isValid

theorem daysInMonth_le (year : Int) (month : Nat) :
    daysInMonth year month ≤ 31 := by
  rw [daysInMonth]
  split_ifs <;> omega

/-- A leap second is second 60 in the text, and is found again behind second
59. -/
theorem read?_render (t : Timestamp) : read? (t.render ' ') = some t := by
  have hvalid := t.isValid
  simp only [CivilTime.isValid, Bool.and_eq_true, Bool.or_eq_true,
    decide_eq_true_eq, beq_iff_eq] at hvalid
  obtain ⟨⟨⟨⟨⟨⟨⟨-, hmonth⟩, -⟩, hday⟩, hhour⟩, hminute⟩, hsecond⟩, hnanos⟩ :=
    hvalid
  have hdays := daysInMonth_le t.civil.year t.civil.month
  have hfraction : t.civil.nanos % 1000000000 < 1000000000 :=
    Nat.mod_lt _ (by decide)
  rw [render,
    read?_fields t.civil.year (by omega) (by omega) (by omega) (by omega)
      (by omega)
    hfraction]
  by_cases hleap : t.civil.nanos < 1000000000
  · rw [Nat.div_eq_of_lt hleap, Nat.mod_eq_of_lt hleap, Nat.add_zero,
      if_neg (by omega)]
    exact t.ofCivil?_civil
  · obtain ⟨hlast, hbound⟩ := hnanos.resolve_left hleap
    have hnanos :
        1000000000 + t.civil.nanos % 1000000000 = t.civil.nanos := by omega
    rw [if_pos (by omega), hnanos, ← hlast]
    exact t.ofCivil?_civil

end Timestamp

/-- A timestamp has a text, and is read back from it. -/
theorem Value.timestamp_survives_text (t : Timestamp) :
    (Value.timestamp t).toText = .ok (Value.timestamp t).display ∧
      (Value.text (Value.timestamp t).display).toTimestamp = .ok t := by
  refine ⟨rfl, ?_⟩
  have hread : Timestamp.read? (Value.timestamp t).display.toList = some t := by
    rw [Value.display, Timestamp.text, String.toList_ofList]
    exact t.read?_render
  rw [Value.toTimestamp, hread]

end NamedSql
