import Mathlib.Data.List.TakeDrop
import NamedSql.Number.Reading

/-!
Decimal digits and their value. Digits are read to the last one, whatever other
text follows them.
-/

namespace NamedSql

/-- Digits with their decimal value. -/
structure DigitsOf (value : Nat) (digits : List Char) : Prop where
  ne_nil : digits ≠ []
  isDigit : ∀ c ∈ digits, c.isDigit = true
  value_eq : Nat.ofDigitChars 10 digits 0 = value

theorem digitsOf_toDigits (value : Nat) :
    DigitsOf value (Nat.toDigits 10 value) where
  ne_nil := Nat.toDigits_ne_nil
  isDigit _ hmem := Nat.isDigit_of_mem_toDigits (by decide) (by decide) hmem
  value_eq := Nat.ofDigitChars_ten_toDigits

theorem DigitsOf.exists_cons {value : Nat} {digits : List Char}
    (h : DigitsOf value digits) :
    ∃ c tail, digits = c :: tail ∧ c.isDigit = true := by
  obtain ⟨c, tail, rfl⟩ := List.exists_cons_of_ne_nil h.ne_nil
  exact ⟨c, tail, rfl, h.isDigit c List.mem_cons_self⟩

theorem digit?_eq (c : Char) :
    digit? c = if c.isDigit = true then some (c.toNat - '0'.toNat)
    else none := by
  have hdigit : ('0' ≤ c ∧ c ≤ '9') ↔ c.isDigit = true := by
    rw [Char.isDigit_iff_toNat]
    rfl
  simp only [digit?, hdigit]

theorem isSome_digit? (c : Char) : (digit? c).isSome = c.isDigit := by
  rw [digit?_eq]
  cases hdigit : c.isDigit <;> simp

theorem le_ofDigitChars (digits : List Char) (acc : Nat) :
    acc ≤ Nat.ofDigitChars 10 digits acc := by
  induction digits generalizing acc with
  | nil => exact Nat.le_refl acc
  | cons c rest ih =>
      rw [Nat.ofDigitChars_cons]
      have hnext := ih (10 * acc + (c.toNat - '0'.toNat))
      omega

theorem DigitsOf.digitsValue_eq {value : Nat} {digits : List Char}
    (h : DigitsOf value digits) : digitsValue digits = value := by
  have hfold : ∀ rest : List Char, (∀ c ∈ rest, c.isDigit = true) → ∀ acc,
      rest.foldl (fun acc c => acc * 10 + (digit? c).getD 0) acc =
        Nat.ofDigitChars 10 rest acc := by
    intro rest hdigits
    induction rest with
    | nil => exact fun acc => Nat.ofDigitChars_nil.symm
    | cons c rest ih =>
        intro acc
        obtain ⟨hc, hrest⟩ := List.forall_mem_cons.mp hdigits
        rw [List.foldl_cons, ih hrest, Nat.ofDigitChars_cons, digit?_eq,
          if_pos hc, Option.getD_some, Nat.mul_comm]
  exact (hfold digits h.isDigit 0).trans h.value_eq

/-- No further digit follows. -/
def EndsDigits (rest : List Char) : Prop :=
  ∀ c ∈ rest.head?, c.isDigit = false

theorem endsDigits_nil : EndsDigits [] :=
  nofun

theorem endsDigits_cons {c : Char} (hc : c.isDigit = false) (rest : List Char) :
    EndsDigits (c :: rest) := by
  rintro other hother
  cases hother
  exact hc

theorem DigitsOf.spanDigits_append {value : Nat} {digits rest : List Char}
    (h : DigitsOf value digits) (hrest : EndsDigits rest) :
    spanDigits (digits ++ rest) = (digits, rest) := by
  have hall : ∀ c ∈ digits, (digit? c).isSome = true :=
    fun c hmem => (isSome_digit? c).trans (h.isDigit c hmem)
  rw [spanDigits, List.span_eq_takeWhile_dropWhile,
    List.takeWhile_append_of_pos hall, List.dropWhile_append_of_pos hall]
  cases rest with
  | nil => simp
  | cons c tail => simp [isSome_digit?, hrest c rfl]

end NamedSql
