/-!
Cutting and replacing texts: at the first or last separator, at every separator,
and replacement of every occurrence of a text.
-/

namespace NamedSql.Text

/-- The parts before and behind the first separator, if there is one. -/
def splitFirst? (separator : Char) : List Char → Option (List Char × List Char)
  | [] => none
  | c :: rest =>
      if c = separator then some ([], rest)
      else
        (splitFirst? separator rest).map fun (before, after) =>
          (c :: before, after)

theorem eq_append_of_splitFirst? {separator : Char}
    {text before after : List Char}
    (h : splitFirst? separator text = some (before, after)) :
    text = before ++ separator :: after ∧ separator ∉ before := by
  induction text generalizing before with
  | nil => simp [splitFirst?] at h
  | cons c rest ih =>
      rw [splitFirst?] at h
      split at h
      · next hc =>
          obtain ⟨rfl, rfl⟩ : [] = before ∧ rest = after := by simpa using h
          simp [hc]
      · next hc =>
          obtain ⟨⟨left, right⟩, hsplit, heq⟩ := Option.map_eq_some_iff.1 h
          obtain ⟨rfl, rfl⟩ : c :: left = before ∧ right = after := by
            simpa using heq
          obtain ⟨htext, hnot⟩ := ih hsplit
          refine ⟨by rw [htext, List.cons_append], ?_⟩
          intro hmem
          rcases List.mem_cons.1 hmem with hsep | hsep
          · exact hc hsep.symm
          · exact hnot hsep

theorem splitFirst?_eq_none_iff {separator : Char} {text : List Char} :
    splitFirst? separator text = none ↔ separator ∉ text := by
  induction text with
  | nil => simp [splitFirst?]
  | cons c rest ih =>
      rw [splitFirst?]
      split
      · next hc => simp [hc]
      · next hc => simp [ih, Ne.symm hc]

theorem length_of_splitFirst? {separator : Char} {text before after : List Char}
    (h : splitFirst? separator text = some (before, after)) :
    after.length < text.length := by
  have htext := (eq_append_of_splitFirst? h).1
  rw [htext, List.length_append, List.length_cons]
  omega

/-- The parts before and behind the last separator, if there is one. -/
def splitLast? (separator : Char) : List Char → Option (List Char × List Char)
  | [] => none
  | c :: rest =>
      match splitLast? separator rest with
      | some (before, after) => some (c :: before, after)
      | none => if c = separator then some ([], rest) else none

theorem splitLast?_eq_none_iff {separator : Char} {text : List Char} :
    splitLast? separator text = none ↔ separator ∉ text := by
  induction text with
  | nil => simp [splitLast?]
  | cons c rest ih =>
      rw [splitLast?]
      split
      · next hsplit =>
          have hmem : separator ∈ rest := by
            by_cases hnot : separator ∈ rest
            · exact hnot
            · rw [ih.2 hnot] at hsplit
              cases hsplit
          simp [hmem]
      · next hsplit =>
          have hnot := ih.1 hsplit
          split
          · next hc => simp [hc]
          · next hc => simp [hnot, Ne.symm hc]

theorem eq_append_of_splitLast? {separator : Char}
    {text before after : List Char}
    (h : splitLast? separator text = some (before, after)) :
    text = before ++ separator :: after ∧ separator ∉ after := by
  induction text generalizing before with
  | nil => simp [splitLast?] at h
  | cons c rest ih =>
      rw [splitLast?] at h
      split at h
      · next left right hsplit =>
          obtain ⟨rfl, rfl⟩ : c :: left = before ∧ right = after := by
            simpa using h
          obtain ⟨htext, hnot⟩ := ih hsplit
          exact ⟨by rw [htext, List.cons_append], hnot⟩
      · next hsplit =>
          split at h
          · next hc =>
              obtain ⟨rfl, rfl⟩ : [] = before ∧ rest = after := by simpa using h
              exact ⟨by simp [hc], splitLast?_eq_none_iff.1 hsplit⟩
          · cases h

/-- The parts before and behind the first occurrence of a mark, if there is
one. -/
def splitAtMark? (mark : List Char) : List Char → Option (List Char × List Char)
  | [] => none
  | c :: rest =>
      if mark.isPrefixOf (c :: rest) then
        some ([], (c :: rest).drop mark.length)
      else
        (splitAtMark? mark rest).map fun (before, after) => (c :: before, after)

/-- The parts between the separators, one more than there are separators. -/
def splitEvery (separator : Char) : List Char → List (List Char)
  | [] => [[]]
  | c :: rest =>
      if c = separator then [] :: splitEvery separator rest
      else
        match splitEvery separator rest with
        | [] => [[c]]
        | part :: parts => (c :: part) :: parts

/-- Whether a text occurs in another. -/
def occursIn (mark : List Char) : List Char → Bool
  | [] => mark.isEmpty
  | c :: rest => mark.isPrefixOf (c :: rest) || occursIn mark rest

/-- Replaces from left to right, passing over the `skip` characters that a
replacement has already used up. -/
def replaceFrom (mark replacement : List Char) : Nat → List Char → List Char
  | _, [] => []
  | skip + 1, _ :: rest => replaceFrom mark replacement skip rest
  | 0, c :: rest =>
      if mark.isPrefixOf (c :: rest) then
        replacement ++ replaceFrom mark replacement (mark.length - 1) rest
      else c :: replaceFrom mark replacement 0 rest

/-- Replaces every occurrence of a nonempty mark, from left to right. What a
replacement brings in is not searched again. -/
def replaceAll (mark replacement text : List Char) : List Char :=
  replaceFrom mark replacement 0 text

end NamedSql.Text
