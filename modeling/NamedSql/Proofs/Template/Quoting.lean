import NamedSql.Proofs.Template.Seams

/-!
Quoting, character by character: which quote is open behind a text, and which
characters of it stand outside quotes. Items leave no quote open, and a text
that does not read for an open quote has just that quote open behind it.
-/

namespace NamedSql.Template

/-- The quote that a character leaves open. -/
def openBehind (c : Char) : Option Char → Option Char
  | some mark => if c = mark then none else some mark
  | none => if isQuote c then some c else none

/-- The quote that is open behind a text, `opened` being the one that is open
before it. -/
def openAfter (opened : Option Char) (text : List Char) : Option Char :=
  text.foldl (fun opened c => openBehind c opened) opened

/-- The characters of a text that stand outside quotes, the marks left out. -/
def unquoted : Option Char → List Char → List Char
  | _, [] => []
  | opened, c :: rest =>
      if opened.isSome || isQuote c then unquoted (openBehind c opened) rest
      else c :: unquoted none rest

theorem openAfter_append (opened : Option Char) (left right : List Char) :
    openAfter opened (left ++ right) =
      openAfter (openAfter opened left) right :=
  List.foldl_append

theorem unquoted_append (opened : Option Char) (left right : List Char) :
    unquoted opened (left ++ right) =
      unquoted opened left ++ unquoted (openAfter opened left) right := by
  induction left generalizing opened with
  | nil => rfl
  | cons c rest ih =>
      rw [List.cons_append, unquoted, unquoted]
      split
      · exact ih (openBehind c opened)
      · next hoff =>
          have hbehind : openBehind c opened = none := by
            cases opened with
            | some mark => simp at hoff
            | none => simpa [openBehind] using hoff
          rw [List.cons_append, openAfter, List.foldl_cons, hbehind, ih]
          rfl

/-- A quote stays open over a text without it. -/
theorem openAfter_of_notMem {mark : Char} {body : List Char} (h : mark ∉ body) :
    openAfter (some mark) body = some mark := by
  induction body with
  | nil => rfl
  | cons c rest ih =>
      rw [List.mem_cons, not_or] at h
      obtain ⟨hc, hrest⟩ := h
      rw [openAfter, List.foldl_cons, openBehind, if_neg (Ne.symm hc)]
      exact ih hrest

theorem openAfter_of_plain {text : List Char}
    (h : ∀ c ∈ text, isQuote c = false) : openAfter none text = none := by
  induction text with
  | nil => rfl
  | cons c rest ih =>
      obtain ⟨hc, hrest⟩ := List.forall_mem_cons.mp h
      rw [openAfter, List.foldl_cons, openBehind, hc]
      exact ih hrest

theorem unquoted_of_plain {text : List Char}
    (h : ∀ c ∈ text, isQuote c = false) : unquoted none text = text := by
  induction text with
  | nil => rfl
  | cons c rest ih =>
      obtain ⟨hc, hrest⟩ := List.forall_mem_cons.mp h
      simp [unquoted, hc, ih hrest]

theorem openAfter_quoted {mark : Char} {body : List Char}
    (hopens : isQuote mark = true) (hinside : mark ∉ body) :
    openAfter none (mark :: body) = some mark := by
  rw [openAfter, List.foldl_cons, openBehind, if_pos hopens]
  exact openAfter_of_notMem hinside

theorem isQuote_eq_false_of_name {c : Char}
    (h : isNameStart c = true ∨ isNameChar c = true) : isQuote c = false := by
  cases hquote : isQuote c with
  | false => rfl
  | true =>
      have hmark : c = '\'' ∨ c = '"' ∨ c = '\x60' := by
        simpa [isQuote, or_assoc] using hquote
      rcases hmark with rfl | rfl | rfl <;> revert h <;> decide

/-- The written form of a slot has no quotes. -/
theorem plain_of_slot {name : List Char} {mode : SlotMode} {next : Option Char}
    (h : (Item.slot name mode).Fits next) :
    ∀ c ∈ (Item.slot name mode).source, isQuote c = false := by
  have hname : ∀ c ∈ name, isQuote c = false := by
    intro c hc
    cases h with
    | list starts goes_on | single starts goes_on =>
        rcases List.mem_cons.mp hc with rfl | hothers
        · exact isQuote_eq_false_of_name (.inl starts)
        · exact isQuote_eq_false_of_name (.inr (goes_on c hothers))
  intro c hc
  cases mode with
  | single =>
      rcases List.mem_cons.mp hc with rfl | hc
      · decide
      · exact hname c hc
  | list =>
      have hcases : c = ':' ∨ c ∈ name ∨ c = '[' ∨ c = ']' := by
        simpa [Item.source] using hc
      rcases hcases with rfl | hc | rfl | rfl
      · decide
      · exact hname c hc
      · decide
      · decide

theorem Item.Fits.openAfter_source {item : Item} {next : Option Char}
    (h : item.Fits next) : openAfter none item.source = none := by
  cases item with
  | quoted mark body =>
      cases h with
      | quoted opens inside =>
          rw [Item.source, openAfter_append, openAfter_quoted opens inside]
          simp [openAfter, openBehind]
  | cast => rfl
  | slot name mode => exact openAfter_of_plain (plain_of_slot h)
  | plain c =>
      cases h with
      | plain unquoted _ =>
          exact openAfter_of_plain (by simpa [Item.source] using unquoted)

/-- Items leave no quote open. -/
theorem ReadBefore.openAfter_source {behind : List Char} {template : List Item}
    (h : ReadBefore behind template) :
    openAfter none (source template) = none := by
  induction h with
  | nil => rfl
  | cons fits _ ih =>
      rw [source_cons, openAfter_append, fits.openAfter_source, ih]

/-- A text that reads leaves no quote open. -/
theorem openAfter_of_fault_eq_none {text : List Char} (h : fault text = none) :
    openAfter none text = none := by
  obtain ⟨template, htemplate⟩ := fault_eq_none_iff.mp h
  obtain ⟨rfl, hreadable⟩ := items_eq_ok_iff.mp htemplate
  exact (readBefore_nil_iff.mpr hreadable).openAfter_source

/-- A text in which no list is cut off does not read for the quote that is open
behind it. -/
theorem fault_eq_openAfter {text : List Char}
    (h : ∀ name, fault text ≠ some (.unterminatedList name)) :
    fault text = (openAfter none text).map .unterminatedQuote := by
  obtain ⟨template, halted, cause, rfl, hread, hhalt⟩ := exists_halt text
  rw [hread.fault_eq, hhalt.fault_eq] at h ⊢
  rw [openAfter_append, hread.openAfter_source]
  cases hhalt with
  | finished => rfl
  | quote opens inside => rw [openAfter_quoted opens inside, Option.map_some]
  | list => exact absurd rfl (h _)

theorem openAfter_toList {opened : Option Char}
    (hopened : ∀ mark ∈ opened, isQuote mark = true) :
    openAfter none opened.toList = opened := by
  cases opened with
  | none => rfl
  | some mark => exact openAfter_quoted (hopened mark rfl) List.not_mem_nil

/-- Behind an open quote, if any, two parts read together if no list is cut off
in the first and the second reads behind the quote that is then open. -/
theorem fault_append_eq_none_iff {opened : Option Char} {left right : List Char}
    (hopened : ∀ mark ∈ opened, isQuote mark = true)
    (hright : OpensApart right) :
    fault (opened.toList ++ (left ++ right)) = none ↔
      (∀ name, fault (opened.toList ++ left) ≠ some (.unterminatedList name)) ∧
        fault ((openAfter opened left).toList ++ right) = none := by
  rw [← List.append_assoc, fault_append hright]
  by_cases hlist :
      ∀ name, fault (opened.toList ++ left) ≠ some (.unterminatedList name)
  · have hleft := fault_eq_openAfter hlist
    rw [openAfter_append, openAfter_toList hopened] at hleft
    rw [and_iff_right hlist, hleft]
    cases openAfter opened left <;> rfl
  · have hcut := hlist
    push Not at hcut
    obtain ⟨name, hname⟩ := hcut
    simp [hname]

theorem isQuote_of_openAfter {opened : Option Char} {text : List Char}
    (hopened : ∀ mark ∈ opened, isQuote mark = true) :
    ∀ mark ∈ openAfter opened text, isQuote mark = true := by
  induction text generalizing opened with
  | nil => exact hopened
  | cons c rest ih =>
      refine ih ?_
      cases opened with
      | none =>
          intro mark hmark
          simp only [openBehind, Option.mem_def, Option.ite_none_right_eq_some]
            at hmark
          obtain ⟨hquote, hsame⟩ := hmark
          exact Option.some.inj hsame ▸ hquote
      | some before =>
          intro mark hmark
          simp only [openBehind, Option.mem_def, Option.ite_none_left_eq_some]
            at hmark
          exact hopened mark hmark.2

end NamedSql.Template
