import Mathlib.Data.List.DropRight
import NamedSql.Text.Blank
import NamedSql.Text.Split

/-!
Texts that were put together are cut into the same parts again: at the first
separator if the part before it holds none, at the last one if the part behind
it holds none, at every one if no part holds one. So every text is put together
from the parts that it is cut into, one of them perhaps missing, in just one
way. Trimming leaves a text whose ends are not blank.
-/

namespace NamedSql.Text

variable {separator : Char}

theorem splitFirst?_append_of_notMem {before : List Char}
    (h : separator ∉ before) (text : List Char) :
    splitFirst? separator (before ++ text) =
      (splitFirst? separator text).map fun (body, after) =>
        (before ++ body, after) := by
  induction before with
  | nil => simp
  | cons c rest ih =>
      rw [List.mem_cons, not_or] at h
      obtain ⟨hc, hrest⟩ := h
      rw [List.cons_append, splitFirst?, if_neg (Ne.symm hc), ih hrest,
        Option.map_map]
      rfl

theorem splitFirst?_append {before : List Char} (after : List Char)
    (h : separator ∉ before) :
    splitFirst? separator (before ++ separator :: after) =
      some (before, after) := by
  rw [splitFirst?_append_of_notMem h, splitFirst?, if_pos rfl]
  simp

theorem splitLast?_append (before : List Char) {after : List Char}
    (h : separator ∉ after) :
    splitLast? separator (before ++ separator :: after) =
      some (before, after) := by
  induction before with
  | nil =>
      have hnone := splitLast?_eq_none_iff.mpr h
      simp [splitLast?, hnone]
  | cons c rest ih => rw [List.cons_append, splitLast?, ih]

/-- A part that may be missing, led by its separator. -/
def withLead (separator : Char) : Option (List Char) → List Char
  | none => []
  | some part => separator :: part

/-- A part that may be missing, ended by its separator. -/
def withEnd (separator : Char) : Option (List Char) → List Char
  | none => []
  | some part => part ++ [separator]

theorem splitFirst?_withLead {before : List Char} (h : separator ∉ before)
    (part : Option (List Char)) :
    splitFirst? separator (before ++ withLead separator part) =
      part.map fun after => (before, after) := by
  cases part with
  | none =>
      rw [withLead, List.append_nil]
      exact splitFirst?_eq_none_iff.mpr h
  | some after => exact splitFirst?_append after h

theorem splitLast?_withEnd (part : Option (List Char)) {after : List Char}
    (h : separator ∉ after) :
    splitLast? separator (withEnd separator part ++ after) =
      part.map fun before => (before, after) := by
  cases part with
  | none => exact splitLast?_eq_none_iff.mpr h
  | some before =>
      rw [withEnd, List.append_assoc]
      exact splitLast?_append before h

theorem exists_withLead (separator : Char) (text : List Char) :
    ∃ before part, text = before ++ withLead separator part ∧
      separator ∉ before := by
  cases hsplit : splitFirst? separator text with
  | none =>
      exact ⟨text, none, (List.append_nil text).symm,
        splitFirst?_eq_none_iff.mp hsplit⟩
  | some parts =>
      obtain ⟨htext, hbefore⟩ := eq_append_of_splitFirst? hsplit
      exact ⟨parts.1, some parts.2, htext, hbefore⟩

theorem exists_withEnd (separator : Char) (text : List Char) :
    ∃ part after, text = withEnd separator part ++ after ∧
      separator ∉ after := by
  cases hsplit : splitLast? separator text with
  | none => exact ⟨none, text, rfl, splitLast?_eq_none_iff.mp hsplit⟩
  | some parts =>
      obtain ⟨htext, hafter⟩ := eq_append_of_splitLast? hsplit
      refine ⟨some parts.1, parts.2, ?_, hafter⟩
      rw [htext, withEnd, List.append_assoc, List.singleton_append]

theorem append_withLead_inj {before before' : List Char}
    {part part' : Option (List Char)} (h : separator ∉ before)
    (h' : separator ∉ before') :
    before ++ withLead separator part = before' ++ withLead separator part' ↔
      before = before' ∧ part = part' := by
  refine ⟨fun heq => ?_, fun ⟨hbefore, hpart⟩ => by rw [hbefore, hpart]⟩
  have hsplit := congrArg (splitFirst? separator) heq
  rw [splitFirst?_withLead h, splitFirst?_withLead h'] at hsplit
  cases part <;> cases part' <;> simp_all [withLead]

theorem withEnd_append_inj {after after' : List Char}
    {part part' : Option (List Char)} (h : separator ∉ after)
    (h' : separator ∉ after') :
    withEnd separator part ++ after = withEnd separator part' ++ after' ↔
      part = part' ∧ after = after' := by
  refine ⟨fun heq => ?_, fun ⟨hpart, hafter⟩ => by rw [hpart, hafter]⟩
  have hsplit := congrArg (splitLast? separator) heq
  rw [splitLast?_withEnd part h, splitLast?_withEnd part' h'] at hsplit
  cases part <;> cases part' <;> simp_all [withEnd]

/-- A mark is found where it stands if it does not begin before, not even where
it would overlap itself. -/
theorem splitAtMark?_of_not_infix {mark before : List Char} (hmark : mark ≠ [])
    (h : ¬mark <:+: before ++ mark.dropLast) (after : List Char) :
    splitAtMark? mark (before ++ (mark ++ after)) = some (before, after) := by
  induction before with
  | nil =>
      obtain ⟨first, others, rfl⟩ := List.exists_cons_of_ne_nil hmark
      have hfound :
          (first :: others).isPrefixOf (first :: (others ++ after)) = true := by
        rw [List.isPrefixOf_iff_prefix, ← List.cons_append]
        exact List.prefix_append _ _
      rw [List.nil_append, List.cons_append, splitAtMark?, if_pos hfound,
        ← List.cons_append, List.drop_left]
  | cons c rest ih =>
      have hnone :
          ¬mark.isPrefixOf (c :: (rest ++ (mark ++ after))) = true := by
        rw [List.isPrefixOf_iff_prefix]
        intro hfound
        have hpart :
            c :: rest ++ mark.dropLast <+: c :: (rest ++ (mark ++ after)) := by
          rw [List.cons_append, List.cons_prefix_cons,
            List.prefix_append_right_inj]
          exact ⟨rfl,
            (List.dropLast_prefix mark).trans (List.prefix_append mark after)⟩
        have hlength : mark.length ≤ (c :: rest ++ mark.dropLast).length := by
          rw [List.length_append, List.length_cons, List.length_dropLast]
          omega
        exact h (List.prefix_of_prefix_length_le hfound hpart hlength).isInfix
      have hrest : ¬mark <:+: rest ++ mark.dropLast :=
        fun hfound => h (hfound.trans (List.suffix_cons c _).isInfix)
      rw [List.cons_append, splitAtMark?, if_neg hnone, ih hrest]
      rfl

theorem eq_append_of_splitAtMark? {mark text before after : List Char}
    (hmark : mark ≠ []) (h : splitAtMark? mark text = some (before, after)) :
    text = before ++ (mark ++ after) ∧ ¬mark <:+: before ++ mark.dropLast := by
  induction text generalizing before with
  | nil => cases h
  | cons c rest ih =>
      rw [splitAtMark?] at h
      split at h
      · next hfound =>
          obtain ⟨tail, htail⟩ := List.isPrefixOf_iff_prefix.mp hfound
          rw [← htail, List.drop_left, Option.some.injEq, Prod.mk.injEq] at h
          obtain ⟨rfl, rfl⟩ := h
          refine ⟨htail.symm, ?_⟩
          intro hinfix
          have hlength := hinfix.length_le
          have hpos := List.length_pos_iff.mpr hmark
          rw [List.nil_append, List.length_dropLast] at hlength
          omega
      · next hnone =>
          obtain ⟨⟨left, right⟩, hsplit, heq⟩ := Option.map_eq_some_iff.mp h
          obtain ⟨rfl, rfl⟩ := Prod.mk.inj heq
          obtain ⟨hrest, hbegins⟩ := ih hsplit
          refine ⟨by rw [hrest, List.cons_append], ?_⟩
          rw [List.cons_append, List.infix_cons_iff, not_or]
          refine ⟨?_, hbegins⟩
          intro hfound
          rw [List.isPrefixOf_iff_prefix, hrest] at hnone
          apply hnone
          refine hfound.trans (List.cons_prefix_cons.mpr ⟨rfl, ?_⟩)
          rw [List.prefix_append_right_inj]
          exact (List.dropLast_prefix mark).trans
            (List.prefix_append mark right)

theorem not_infix_of_notMem {first : Char} {others before : List Char}
    (h : first ∉ before) :
    ¬first :: others <:+: before ++ (first :: others).dropLast := by
  rintro ⟨left, right, heq⟩
  have hlength := congrArg List.length heq
  have hshort : left.length < before.length := by
    simp only [List.length_append, List.length_cons, List.length_dropLast]
      at hlength
    omega
  have hfirst := congrArg (fun text => text[left.length]?) heq
  simp only [List.append_assoc, List.getElem?_append_right,
    List.getElem?_append_left, hshort, Nat.le_refl, Nat.sub_self,
    List.cons_append, List.getElem?_cons_zero] at hfirst
  exact h (List.mem_of_getElem? hfirst.symm)

theorem splitEvery_of_notMem {part : List Char} (h : separator ∉ part) :
    splitEvery separator part = [part] := by
  induction part with
  | nil => rfl
  | cons c rest ih =>
      rw [List.mem_cons, not_or] at h
      rw [splitEvery, if_neg (Ne.symm h.1), ih h.2]

theorem splitEvery_append {part : List Char} (rest : List Char)
    (h : separator ∉ part) :
    splitEvery separator (part ++ separator :: rest) =
      part :: splitEvery separator rest := by
  induction part with
  | nil => rw [List.nil_append, splitEvery, if_pos rfl]
  | cons c others ih =>
      rw [List.mem_cons, not_or] at h
      rw [List.cons_append, splitEvery, if_neg (Ne.symm h.1), ih h.2]

/-- Parts without the separator come back from the text that they are joined
to. -/
theorem splitEvery_intercalate {parts : List (List Char)} (hne : parts ≠ [])
    (h : ∀ part ∈ parts, separator ∉ part) :
    splitEvery separator (List.intercalate [separator] parts) = parts := by
  induction parts with
  | nil => exact absurd rfl hne
  | cons part rest ih =>
      have hpart := h part List.mem_cons_self
      cases rest with
      | nil => rw [List.intercalate_singleton, splitEvery_of_notMem hpart]
      | cons next others =>
          rw [List.intercalate_cons_cons, List.append_assoc,
            List.singleton_append, splitEvery_append _ hpart,
            ih (List.cons_ne_nil next others)]
          exact fun later hmem => h later (List.mem_cons_of_mem part hmem)

/-- Blanks inside a text are left, so only its ends count. -/
theorem trim_eq_self {text : List Char}
    (hhead : ∀ c ∈ text.head?, isBlank c = false)
    (hlast : ∀ c ∈ text.getLast?, isBlank c = false) : trim text = text := by
  have hstart : trimStart text = text := by
    cases text with
    | nil => rfl
    | cons c rest =>
        rw [trimStart, List.dropWhile_cons_of_neg (by simp [hhead c rfl])]
  rw [trim, hstart]
  change text.rdropWhile isBlank = text
  rw [List.rdropWhile_eq_self_iff]
  intro hne
  simp [hlast (text.getLast hne) (List.getLast?_eq_some_getLast hne)]

theorem trimStart_append {c : Char} (hc : isBlank c = false)
    (before after : List Char) :
    trimStart (before ++ c :: after) = trimStart before ++ c :: after := by
  rw [trimStart, trimStart, List.dropWhile_append]
  split
  · next hblank =>
      rw [List.isEmpty_iff.mp hblank, List.dropWhile_cons_of_neg (by simp [hc]),
        List.nil_append]
  · rfl

theorem trimEnd_append {c : Char} (hc : isBlank c = false)
    (before after : List Char) :
    trimEnd (before ++ c :: after) = before ++ c :: trimEnd after := by
  have hstart := trimStart_append hc after.reverse before.reverse
  rw [trimStart, trimStart] at hstart
  rw [trimEnd, trimEnd, List.reverse_append, List.reverse_cons,
    List.append_assoc, List.singleton_append, hstart]
  simp

/-- What is not blank parts the blanks before a text from those behind it. -/
theorem trim_append {c : Char} (hc : isBlank c = false)
    (before after : List Char) :
    trim (before ++ c :: after) = trimStart before ++ c :: trimEnd after := by
  rw [trim, trimStart_append hc, trimEnd_append hc]

/-- Blanks around a text do not count. -/
theorem trim_between {before after : List Char}
    (hbefore : ∀ c ∈ before, isBlank c = true)
    (hafter : ∀ c ∈ after, isBlank c = true) (text : List Char) :
    trim (before ++ text ++ after) = trim text := by
  have hend : ∀ body, trimEnd (body ++ after) = trimEnd body := by
    intro body
    rw [trimEnd, List.reverse_append, List.dropWhile_append_of_pos, trimEnd]
    exact fun c hmem => hafter c (List.mem_reverse.mp hmem)
  have hstart :
      trimStart (before ++ (text ++ after)) = trimStart (text ++ after) :=
    List.dropWhile_append_of_pos hbefore
  rw [trim, List.append_assoc, hstart, trimStart, List.dropWhile_append]
  split
  · next hblank =>
      have hnone : trimStart after = [] := List.dropWhile_eq_nil_iff.mpr hafter
      rw [trim, trimStart, List.isEmpty_iff.mp hblank]
      exact congrArg trimEnd hnone
  · exact hend _

theorem trimEnd_eq_of_trim_eq {text : List Char} (h : trim text = text) :
    trimEnd text = text := by
  have hsuffix : trimStart text <:+ text := List.dropWhile_suffix isBlank
  have hprefix : trim text <+: trimStart text :=
    List.rdropWhile_prefix isBlank _
  have hlength : text.length ≤ (trimStart text).length := by
    rw [h] at hprefix
    exact hprefix.length_le
  have hstart : trimStart text = text := hsuffix.eq_of_length_le hlength
  rw [trim, hstart] at h
  exact h

end NamedSql.Text
