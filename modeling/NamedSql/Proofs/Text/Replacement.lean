import NamedSql.Text.Split
import Mathlib.Data.List.Infix

/-!
Replacing a mark in a text: what holds none of it stays as it is, and what
stands before its first occurrence is kept. Marks between two separators occur
only where a text between two separators spells them.
-/

namespace NamedSql.Text

variable {mark replacement : List Char}

/-- Behind a mark that was found the search goes on. -/
theorem replaceFrom_length_append (passed text : List Char) :
    replaceFrom mark replacement passed.length (passed ++ text) =
      replaceAll mark replacement text := by
  induction passed with
  | nil => rfl
  | cons c rest ih => rw [List.cons_append, List.length_cons, replaceFrom, ih]

theorem replaceAll_mark_append (hmark : mark ≠ []) (text : List Char) :
    replaceAll mark replacement (mark ++ text) =
      replacement ++ replaceAll mark replacement text := by
  obtain ⟨first, others, rfl⟩ := List.exists_cons_of_ne_nil hmark
  have hfound :
      (first :: others).isPrefixOf (first :: (others ++ text)) = true := by
    rw [List.isPrefixOf_iff_prefix, ← List.cons_append]
    exact List.prefix_append _ _
  rw [replaceAll, List.cons_append, replaceFrom, if_pos hfound,
    List.length_cons, Nat.add_sub_cancel, replaceFrom_length_append]

/-- A text without the first character of the mark stays. -/
theorem replaceAll_append_of_notMem {first : Char} {others before : List Char}
    (h : first ∉ before) (text : List Char) :
    replaceAll (first :: others) replacement (before ++ text) =
      before ++ replaceAll (first :: others) replacement text := by
  induction before with
  | nil => rfl
  | cons c rest ih =>
      rw [List.mem_cons, not_or] at h
      obtain ⟨hc, hrest⟩ := h
      have hnone :
          (first :: others).isPrefixOf (c :: (rest ++ text)) = false := by
        rw [List.isPrefixOf_cons_cons, beq_false_of_ne hc, Bool.false_and]
      rw [replaceAll, List.cons_append, replaceFrom, if_neg (by simp [hnone]),
        List.cons_append]
      exact congrArg (c :: ·) (ih hrest)

theorem replaceAll_of_not_infix {text : List Char} (h : ¬mark <:+: text) :
    replaceAll mark replacement text = text := by
  induction text with
  | nil => rfl
  | cons c rest ih =>
      rw [List.infix_cons_iff, not_or] at h
      obtain ⟨hhere, hrest⟩ := h
      have hnone : ¬mark.isPrefixOf (c :: rest) = true := by
        rwa [List.isPrefixOf_iff_prefix]
      rw [replaceAll, replaceFrom, if_neg hnone]
      exact congrArg (c :: ·) (ih hrest)

variable {separator : Char} {body run rest : List Char}

theorem infix_append_iff_of_notMem (h : separator ∉ run) :
    separator :: body <:+: run ++ rest ↔ separator :: body <:+: rest := by
  induction run with
  | nil => rfl
  | cons c run ih =>
      rw [List.mem_cons, not_or] at h
      obtain ⟨hc, hrun⟩ := h
      rw [List.cons_append, List.infix_cons_iff, ih hrun, List.cons_prefix_cons]
      simp [hc]

/-- Two texts without the separator that are followed by it are the same. -/
theorem eq_of_append_separator {other : List Char} (hbody : separator ∉ body)
    (hrun : separator ∉ run)
    (h : body ++ [separator] <+: run ++ separator :: other) : body = run := by
  induction body generalizing run with
  | nil =>
      cases run with
      | nil => rfl
      | cons c run =>
          obtain ⟨rfl, -⟩ := List.cons_prefix_cons.mp h
          exact absurd List.mem_cons_self hrun
  | cons c body ih =>
      cases run with
      | nil =>
          obtain ⟨rfl, -⟩ := List.cons_prefix_cons.mp h
          exact absurd List.mem_cons_self hbody
      | cons d run =>
          rw [List.cons_append, List.cons_append] at h
          obtain ⟨rfl, hrest⟩ := List.cons_prefix_cons.mp h
          rw [ih (fun hmem => hbody (List.mem_cons_of_mem c hmem))
            (fun hmem => hrun (List.mem_cons_of_mem c hmem)) hrest]

/-- A mark between separators occurs behind a separator if the next text spells
it, or if it occurs behind the next separator. -/
theorem eq_or_infix_of_separated (hbody : separator ∉ body)
    (hrun : separator ∉ run)
    (h : separator :: (body ++ [separator]) <:+:
      separator :: (run ++ separator :: rest)) :
    body = run ∨ separator :: (body ++ [separator]) <:+: separator :: rest := by
  rcases List.infix_cons_iff.mp h with hhere | hbehind
  · exact .inl
      (eq_of_append_separator hbody hrun (List.cons_prefix_cons.mp hhere).2)
  · exact .inr ((infix_append_iff_of_notMem hrun).mp hbehind)

/-- A mark between separators does not occur where there is only one. -/
theorem not_infix_of_one_separator (hrun : separator ∉ run) :
    ¬separator :: (body ++ [separator]) <:+: separator :: run := by
  intro h
  have hone : (separator :: run).count separator = 1 := by
    rw [List.count_cons_self, List.count_eq_zero_of_not_mem hrun]
  have htwo : 2 ≤ (separator :: (body ++ [separator])).count separator := by
    simp
  have hle := h.sublist.count_le separator
  omega

end NamedSql.Text
