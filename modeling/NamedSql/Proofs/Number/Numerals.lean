import NamedSql.Proofs.Number.Digits

/-!
Which texts are numerals. A range that starts at zero reads digits, behind a
plus sign or not, if their decimal value lies in it, however many zeros lead,
and nothing else. A range on both sides of zero reads digits behind a minus sign
as well.
-/

namespace NamedSql

variable {value : Nat} {digits text : List Char}

/-- Digits, which a plus sign may lead, with their decimal value. -/
def Numeral (text : List Char) (value : Nat) : Prop :=
  ∃ digits, digits ≠ [] ∧ (∀ c ∈ digits, c.isDigit = true) ∧
    (text = digits ∨ text = '+' :: digits) ∧
    Nat.ofDigitChars 10 digits 0 = value

theorem numeral_iff :
    Numeral text value ↔
      ∃ digits, DigitsOf value digits ∧
        (text = digits ∨ text = '+' :: digits) := by
  constructor
  · rintro ⟨digits, hne, hall, htext, hvalue⟩
    exact ⟨digits, ⟨hne, hall, hvalue⟩, htext⟩
  · rintro ⟨digits, h, htext⟩
    exact ⟨digits, h.ne_nil, h.isDigit, htext, h.value_eq⟩

theorem numeral_toDigits (value : Nat) :
    Numeral (Nat.toDigits 10 value) value :=
  numeral_iff.mpr ⟨_, digitsOf_toDigits value, .inl rfl⟩

/-- Integers in decimal: a numeral, or digits behind a minus sign. -/
inductive IntegerText : List Char → Int → Prop
  | numeral {text : List Char} {value : Nat} (h : Numeral text value) :
      IntegerText text value
  | negative {digits : List Char} {value : Nat} (h : DigitsOf value digits) :
      IntegerText ('-' :: digits) (-(value : Int))

/-- What digits of some value stand for, behind a minus sign or not. -/
def withSign (negative : Bool) (value : Nat) : Int :=
  if negative then -(value : Int) else value

namespace IntegerRange

variable {range : IntegerRange} {negative : Bool} {n : Int}

theorem contains_iff :
    range.contains n = true ↔ range.lowest ≤ n ∧ n ≤ range.highest := by
  simp [contains]

/-- A range that holds zero and some number holds all between them. -/
theorem contains_withSign_of_le (hzero : range.contains 0 = true)
    {greater : Nat} (hle : value ≤ greater)
    (h : range.contains (withSign negative greater) = true) :
    range.contains (withSign negative value) = true := by
  rw [contains_iff] at hzero h ⊢
  cases negative <;>
    simp only [withSign, if_true, Bool.false_eq_true, if_false] at h ⊢ <;> omega

/-- Digits are read one by one, but all that counts is whether their value is in
the range: on the way they only get farther from zero. -/
theorem readDigits_eq_ok_iff (hzero : range.contains 0 = true) {acc : Nat}
    (hacc : range.contains (withSign negative acc) = true) :
    range.readDigits negative (withSign negative acc) digits = .ok n ↔
      (∀ c ∈ digits, c.isDigit = true) ∧
        range.contains (withSign negative (Nat.ofDigitChars 10 digits acc)) =
          true ∧
        n = withSign negative (Nat.ofDigitChars 10 digits acc) := by
  induction digits generalizing acc with
  | nil =>
      rw [readDigits, Nat.ofDigitChars_nil, Except.ok.injEq]
      exact ⟨fun heq => ⟨nofun, hacc, heq.symm⟩, fun h => h.2.2.symm⟩
  | cons c rest ih =>
      rw [readDigits, digit?_eq, List.forall_mem_cons, Nat.ofDigitChars_cons]
      by_cases hdigit : c.isDigit = true
      · rw [if_pos hdigit]
        generalize c.toNat - '0'.toNat = d
        have hnext : (if negative then withSign negative acc * 10 - d
            else withSign negative acc * 10 + d) =
              withSign negative (10 * acc + d) := by
          cases negative <;>
            simp only [withSign, if_true, Bool.false_eq_true, if_false] <;>
              omega
        simp only [hnext, hdigit, true_and]
        by_cases hwithin :
            range.contains (withSign negative (10 * acc + d)) = true
        · obtain ⟨hlow, hhigh⟩ := contains_iff.mp hwithin
          rw [if_neg (Int.not_lt.mpr hhigh), if_neg (Int.not_lt.mpr hlow)]
          exact ih hwithin
        · have hgrows := le_ofDigitChars rest (10 * acc + d)
          have hbeyond := mt (contains_withSign_of_le hzero hgrows) hwithin
          rw [contains_iff] at hwithin
          by_cases hhigh : range.highest < withSign negative (10 * acc + d)
          · simp [if_pos hhigh, hbeyond]
          · have hlow :
                withSign negative (10 * acc + d) < range.lowest := by omega
            simp [if_neg hhigh, if_pos hlow, hbeyond]
      · simp [hdigit]

theorem read_of_isDigit (range : IntegerRange) (c : Char) (rest : List Char)
    (hdigit : c.isDigit = true) :
    range.read (c :: rest) = range.readDigits false 0 (c :: rest) := by
  have hplus : c ≠ '+' := by rintro rfl; exact absurd hdigit (by decide)
  have hminus : c ≠ '-' := by rintro rfl; exact absurd hdigit (by decide)
  rw [read.eq_def]
  split <;> simp_all

theorem readDigits_zero_eq_ok_iff (hzero : range.contains 0 = true)
    (hne : digits ≠ []) :
    range.readDigits negative 0 digits = .ok n ↔
      range.contains n = true ∧ ∃ value,
        DigitsOf value digits ∧ n = withSign negative value := by
  have hsigned : withSign negative 0 = 0 := by cases negative <;> rfl
  have hacc : range.contains (withSign negative 0) = true := by
    rw [hsigned]; exact hzero
  rw [← hsigned, readDigits_eq_ok_iff hzero hacc]
  constructor
  · rintro ⟨hdigits, hcontains, rfl⟩
    exact ⟨hcontains, _, ⟨hne, hdigits, rfl⟩, rfl⟩
  · rintro ⟨hcontains, value, h, rfl⟩
    rw [h.value_eq]
    exact ⟨h.isDigit, hcontains, rfl⟩

/-- A range that holds zero reads the numerals of its numbers, and digits behind
a minus sign if it reaches below zero. -/
theorem read?_eq_some_iff (hzero : range.contains 0 = true) :
    range.read? text = some n ↔ range.contains n = true ∧
      ((∃ value : Nat, Numeral text value ∧ n = value) ∨
        range.lowest < 0 ∧ ∃ (value : Nat) (digits : List Char),
          text = '-' :: digits ∧ DigitsOf value digits ∧
            n = -(value : Int)) := by
  have hread : range.read? text = some n ↔ range.read text = .ok n := by
    rw [read?]
    cases range.read text <;> simp [Except.toOption]
  rw [hread]
  constructor
  · intro h
    rw [read.eq_def] at h
    split at h
    · cases h
    · cases h
    · cases h
    · next digits hne =>
        obtain ⟨hcontains, value, hdigits, hn⟩ :=
          (readDigits_zero_eq_ok_iff hzero hne).mp h
        exact ⟨hcontains,
          .inl ⟨value, numeral_iff.mpr ⟨digits, hdigits, .inr rfl⟩, hn⟩⟩
    · next digits hne =>
        split at h
        · next hlowest =>
            obtain ⟨hcontains, value, hdigits, hn⟩ :=
              (readDigits_zero_eq_ok_iff hzero hne).mp h
            exact ⟨hcontains, .inr ⟨hlowest, value, digits, rfl, hdigits, hn⟩⟩
        · cases h
    · next hne _ _ _ _ =>
        obtain ⟨hcontains, value, hdigits, hn⟩ :=
          (readDigits_zero_eq_ok_iff hzero hne).mp h
        exact ⟨hcontains,
          .inl ⟨value, numeral_iff.mpr ⟨text, hdigits, .inl rfl⟩, hn⟩⟩
  · rintro ⟨hcontains,
      ⟨value, hnumeral, hn⟩ | ⟨hlowest, value, digits, rfl, hdigits, hn⟩⟩
    · obtain ⟨digits, hdigits, htext⟩ := numeral_iff.mp hnumeral
      have hok : range.readDigits false 0 digits = .ok n :=
        (readDigits_zero_eq_ok_iff hzero hdigits.ne_nil).mpr
          ⟨hcontains, value, hdigits, hn⟩
      obtain ⟨c, rest, rfl, hc⟩ := hdigits.exists_cons
      rcases htext with rfl | rfl
      · rw [read_of_isDigit range c rest hc]
        exact hok
      · exact hok
    · have hok : range.readDigits true 0 digits = .ok n :=
        (readDigits_zero_eq_ok_iff hzero hdigits.ne_nil).mpr
          ⟨hcontains, value, hdigits, hn⟩
      obtain ⟨c, rest, rfl, -⟩ := hdigits.exists_cons
      exact (if_pos hlowest).trans hok

/-- The unsigned range of some bits reads the numerals of its numbers. -/
theorem read?_unsigned_eq_some_iff {bits : Nat} :
    (unsigned bits).read? text = some n ↔
      ∃ value < twoTo bits, Numeral text value ∧ n = value := by
  have hpos : 0 < twoTo bits := Nat.two_pow_pos bits
  have hcontains : ∀ value : Nat, (unsigned bits).contains value = true ↔
      value < twoTo bits := by
    intro value
    rw [contains_iff]
    change (0 : Int) ≤ value ∧ (value : Int) ≤ (twoTo bits : Int) - 1 ↔ _
    omega
  rw [read?_eq_some_iff ((hcontains 0).mpr hpos)]
  constructor
  · rintro ⟨hbound, ⟨value, hnumeral, rfl⟩ | ⟨hlowest, -⟩⟩
    · exact ⟨value, (hcontains value).mp hbound, hnumeral, rfl⟩
    · exact absurd hlowest (Int.lt_irrefl 0)
  · rintro ⟨value, hbound, hnumeral, rfl⟩
    exact ⟨(hcontains value).mpr hbound, .inl ⟨value, hnumeral, rfl⟩⟩

theorem toNat_read?_unsigned_eq_some_iff {bits : Nat} :
    ((unsigned bits).read? text).map Int.toNat = some value ↔
      value < twoTo bits ∧ Numeral text value := by
  rw [Option.map_eq_some_iff]
  constructor
  · rintro ⟨n, hread, rfl⟩
    obtain ⟨number, hbound, hnumeral, rfl⟩ :=
      read?_unsigned_eq_some_iff.mp hread
    exact ⟨hbound, hnumeral⟩
  · rintro ⟨hbound, hnumeral⟩
    exact ⟨value, read?_unsigned_eq_some_iff.mpr ⟨value, hbound, hnumeral, rfl⟩,
      rfl⟩

/-- A range on both sides of zero reads the decimal texts of its numbers. -/
theorem read?_eq_some_iff_of_neg (hzero : range.contains 0 = true)
    (hlowest : range.lowest < 0) :
    range.read? text = some n ↔
      range.contains n = true ∧ IntegerText text n := by
  rw [read?_eq_some_iff hzero]
  refine and_congr_right fun _ => ⟨?_, ?_⟩
  · rintro (⟨value, hnumeral, rfl⟩ | ⟨-, value, digits, rfl, hdigits, rfl⟩)
    · exact .numeral hnumeral
    · exact .negative hdigits
  · rintro (hnumeral | hdigits)
    · exact .inl ⟨_, hnumeral, rfl⟩
    · exact .inr ⟨hlowest, _, _, rfl, hdigits, rfl⟩

end IntegerRange

/-- No text stands for two integers, since a range that holds both reads it. -/
theorem IntegerText.unique {n m : Int} (hn : IntegerText text n)
    (hm : IntegerText text m) : n = m := by
  let range : IntegerRange :=
    ⟨-(n.natAbs + m.natAbs + 1 : Nat), (n.natAbs + m.natAbs : Nat)⟩
  have hcontains :
      ∀ k : Int, k.natAbs ≤ n.natAbs + m.natAbs → range.contains k = true := by
    intro k hk
    rw [IntegerRange.contains_iff]
    simp only [range]
    omega
  have hlowest : range.lowest < 0 := by
    simp only [range]
    omega
  have hread : ∀ k : Int, k.natAbs ≤ n.natAbs + m.natAbs → IntegerText text k →
      range.read? text = some k := by
    intro k hk htext
    exact (IntegerRange.read?_eq_some_iff_of_neg (hcontains 0 (Nat.zero_le _))
      hlowest).mpr ⟨hcontains k hk, htext⟩
  have hreadn := hread n (Nat.le_add_right _ _) hn
  have hreadm := hread m (Nat.le_add_left _ _) hm
  exact Option.some.inj (hreadn.symm.trans hreadm)

end NamedSql
