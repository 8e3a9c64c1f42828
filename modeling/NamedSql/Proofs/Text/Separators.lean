import NamedSql.Proofs.Text.Cutting
import NamedSql.Proofs.Text.Percent

/-!
Texts that hold no blank and none of the separators that stand around them. A
percent-encoded text is one, and so are digits, whatever the separators, if
these are no unreserved characters.
-/

namespace NamedSql.Text

variable {separators others text behind : List Char}

/-- No character of a text is a blank or one of some separators. -/
def FreeOf (separators text : List Char) : Prop :=
  ∀ c ∈ text, isBlank c = false ∧ c ∉ separators

instance : Decidable (FreeOf separators text) :=
  List.decidableBAll (fun c => isBlank c = false ∧ c ∉ separators) text

namespace FreeOf

theorem nil : FreeOf separators [] :=
  nofun

theorem notMem (h : FreeOf separators text) {c : Char} (hc : c ∈ separators) :
    c ∉ text :=
  fun hmem => (h c hmem).2 hc

theorem mono (h : FreeOf separators text) (hsub : others ⊆ separators) :
    FreeOf others text :=
  fun c hmem => ⟨(h c hmem).1, fun hc => (h c hmem).2 (hsub hc)⟩

theorem append (h : FreeOf separators text)
    (hbehind : FreeOf separators behind) :
    FreeOf separators (text ++ behind) := by
  intro c hmem
  rcases List.mem_append.mp hmem with hmem | hmem
  · exact h c hmem
  · exact hbehind c hmem

theorem cons {c : Char} (hc : isBlank c = false ∧ c ∉ separators)
    (h : FreeOf separators text) : FreeOf separators (c :: text) :=
  List.forall_mem_cons.mpr ⟨hc, h⟩

theorem trim_eq (h : FreeOf separators text) : trim text = text :=
  trim_eq_self (fun c hc => (h c (List.mem_of_head? hc)).1)
    fun c hc => (h c (List.mem_of_getLast? hc)).1

theorem trimStart_eq (h : FreeOf separators text) : trimStart text = text := by
  cases text with
  | nil => rfl
  | cons c rest =>
      rw [trimStart,
        List.dropWhile_cons_of_neg (by simp [h c List.mem_cons_self])]

/-- Only what stands behind such a text is trimmed. -/
theorem trim_append (h : FreeOf separators text) {c : Char}
    (hc : isBlank c = false) (behind : List Char) :
    trim (text ++ c :: behind) = text ++ c :: trimEnd behind := by
  rw [Text.trim_append hc, h.trimStart_eq]

end FreeOf

/-- The unreserved characters are among the visible ones of ASCII. -/
theorem toNat_of_isUnreserved {c : Char} (h : isUnreserved c = true) :
    0x21 ≤ c.toNat ∧ c.toNat ≤ 0x7E := by
  have hvisible : ∀ low high : Char, 0x21 ≤ low.toNat → high.toNat ≤ 0x7E →
      low.val ≤ c.val ∧ c.val ≤ high.val → 0x21 ≤ c.toNat ∧ c.toNat ≤ 0x7E := by
    rintro low high hlow hhigh ⟨hleast, hgreatest⟩
    have hbehind : low.toNat ≤ c.toNat := UInt32.le_iff_toNat_le.mp hleast
    have hbefore : c.toNat ≤ high.toNat := UInt32.le_iff_toNat_le.mp hgreatest
    omega
  rcases Bool.or_eq_true_iff.mp h with hword | hmark
  · rcases Bool.or_eq_true_iff.mp hword with hletter | hdigit
    · rcases Bool.or_eq_true_iff.mp hletter with hupper | hlower
      · exact hvisible 'A' 'Z' (by decide) (by decide)
          (of_decide_eq_true hupper)
      · obtain ⟨hleast, hgreatest⟩ := Bool.and_eq_true_iff.mp hlower
        exact hvisible 'a' 'z' (by decide) (by decide)
          ⟨of_decide_eq_true hleast, of_decide_eq_true hgreatest⟩
    · obtain ⟨hleast, hgreatest⟩ := Bool.and_eq_true_iff.mp hdigit
      exact hvisible '0' '9' (by decide) (by decide)
        ⟨of_decide_eq_true hleast, of_decide_eq_true hgreatest⟩
  · rw [List.contains_iff_mem] at hmark
    simp only [List.mem_cons, List.not_mem_nil, or_false] at hmark
    rcases hmark with rfl | rfl | rfl | rfl <;> decide

theorem isBlank_of_isUnreserved {c : Char} (h : isUnreserved c = true) :
    isBlank c = false := by
  have hcode := toNat_of_isUnreserved h
  simp [isBlank]
  omega

/-- No separator occurs in a percent-encoded text. -/
def Reserved (separators : List Char) : Prop :=
  ∀ c ∈ separators, isUnreserved c = false ∧ c ≠ '%'

instance : Decidable (Reserved separators) :=
  List.decidableBAll (fun c => isUnreserved c = false ∧ c ≠ '%') separators

theorem freeOf_of_isUnreserved (hreserved : Reserved separators)
    (h : ∀ c ∈ text, isUnreserved c = true ∨ c = '%') :
    FreeOf separators text := by
  intro c hmem
  rcases h c hmem with hplain | rfl
  · refine ⟨isBlank_of_isUnreserved hplain, ?_⟩
    intro hc
    have hnot := (hreserved c hc).1
    rw [hplain] at hnot
    cases hnot
  · exact ⟨by decide, fun hc => (hreserved '%' hc).2 rfl⟩

theorem freeOf_of_isDigit (hreserved : Reserved separators)
    (h : ∀ c ∈ text, c.isDigit = true) : FreeOf separators text := by
  apply freeOf_of_isUnreserved hreserved
  intro c hmem
  simp [isUnreserved, Char.isAlphanum, h c hmem]

theorem freeOf_toDigits (hreserved : Reserved separators) (n : Nat) :
    FreeOf separators (Nat.toDigits 10 n) :=
  freeOf_of_isDigit hreserved fun _ hmem =>
    Nat.isDigit_of_mem_toDigits (by decide) (by decide) hmem

end NamedSql.Text
