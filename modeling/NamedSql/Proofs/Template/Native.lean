import NamedSql.Proofs.Template.Rendering

/-!
Templates in a driver's own syntax. A placeholder is written for every slot and
for every mark that the template has of its own outside quotes; they are
numbered from left to right, and the rest of the template stays as it is. What
is written so reads as a template again, in which nothing is left to be
replaced.
-/

namespace NamedSql

namespace Dialect

variable {dialect : Dialect}

/-- A placeholder begins with its mark, which neither continues a colon nor
opens a quote, and goes on with letters and digits. -/
theorem exists_placeholder_eq_cons (dialect : Dialect) (ordinal : Nat) :
    ∃ first others, dialect.placeholder ordinal = first :: others ∧
      first ≠ ':' ∧
      Template.isNameStart first = false ∧ Template.isQuote first = false ∧
      ∀ c ∈ others, Template.isNameChar c = true := by
  have hdigits :
      ∀ c ∈ Nat.toDigits 10 ordinal, Template.isNameChar c = true := by
    intro c hc
    have hdigit : c.isDigit = true :=
      Nat.isDigit_of_mem_toDigits (by decide) (by decide) hc
    simp [Template.isNameChar, Char.isAlphanum, hdigit]
  cases dialect with
  | question =>
      exact ⟨_, _, rfl, by decide, by decide, by decide, List.forall_mem_nil _⟩
  | dollar => exact ⟨_, _, rfl, by decide, by decide, by decide, hdigits⟩
  | atP =>
      refine ⟨_, _, rfl, by decide, by decide, by decide, ?_⟩
      exact List.forall_mem_cons.mpr ⟨by decide, hdigits⟩

theorem holdMark_notMem_placeholder (h : dialect ≠ .question) (ordinal : Nat) :
    Template.holdMark ∉ dialect.placeholder ordinal := by
  have hdigits : Template.holdMark ∉ Nat.toDigits 10 ordinal := by
    intro hmem
    have hdigit := Nat.isDigit_of_mem_toDigits (by decide) (by decide) hmem
    exact absurd hdigit (by decide)
  cases dialect with
  | question => exact absurd rfl h
  | dollar => exact List.not_mem_cons_of_ne_of_not_mem (by decide) hdigits
  | atP =>
      exact List.not_mem_cons_of_ne_of_not_mem (by decide)
        (List.not_mem_cons_of_ne_of_not_mem (by decide) hdigits)

/-- Where placeholders are marks, rendering changes nothing. -/
theorem renderFrom_question (opened : Option Char) (used : Nat)
    (text : List Char) :
    Dialect.question.renderFrom opened used text = text := by
  induction text generalizing opened used with
  | nil => cases opened <;> rfl
  | cons c rest ih =>
      cases opened with
      | some mark => rw [renderFrom, ih]
      | none =>
          rw [renderFrom]
          split
          · rw [ih]
          · split
            · next hmark => rw [ih, hmark]; rfl
            · rw [ih]

end Dialect

namespace Template

variable {dialect : Dialect}

instance : DecidablePred Item.IsSlot
  | .slot name mode => .isTrue ⟨name, mode, rfl⟩
  | .quoted _ _ | .cast | .plain _ => .isFalse (by rintro ⟨_, _, ⟨⟩⟩)

/-- Whether a placeholder is written for the item: it is a slot, or a mark of
the template's own. -/
def Item.holds : Item → Bool
  | .slot _ _ => true
  | .plain c => c == holdMark
  | .quoted _ _ | .cast => false

/-- The template with placeholders, numbered on from `used`, in place of the
items that hold. -/
def withPlaceholders (dialect : Dialect) : Nat → List Item → List Item
  | _, [] => []
  | used, item :: rest =>
      if item.holds then
        (dialect.placeholder (used + 1)).map .plain ++
          withPlaceholders dialect (used + 1) rest
      else item :: withPlaceholders dialect used rest

theorem source_map_plain (text : List Char) :
    source (text.map .plain) = text := by
  induction text with
  | nil => rfl
  | cons c rest ih => rw [List.map_cons, source_cons, ih]; rfl

theorem withPlaceholders_cons_of_holds {item : Item} (h : item.holds = true)
    (used : Nat) (rest : List Item) :
    withPlaceholders dialect used (item :: rest) =
      (dialect.placeholder (used + 1)).map .plain ++
        withPlaceholders dialect (used + 1) rest := by
  rw [withPlaceholders, if_pos h]

theorem withPlaceholders_cons {item : Item} (h : item.holds = false)
    (used : Nat) (rest : List Item) :
    withPlaceholders dialect used (item :: rest) =
      item :: withPlaceholders dialect used rest := by
  rw [withPlaceholders, h, if_neg Bool.false_ne_true]

/-- An item that does not hold is no slot. -/
theorem Item.not_isSlot_of_holds {item : Item} (h : item.holds = false) :
    ¬item.IsSlot := by
  rintro ⟨name, mode, rfl⟩
  cases h

/-- Inside a quoted run nothing stands outside quotes. -/
theorem unquoted_of_notMem {mark : Char} {body : List Char} (h : mark ∉ body) :
    unquoted (some mark) (body ++ [mark]) = [] := by
  induction body with
  | nil => simp [unquoted]
  | cons c rest ih =>
      rw [List.mem_cons, not_or] at h
      obtain ⟨hc, hrest⟩ := h
      rw [List.cons_append, unquoted, if_pos (by simp), openBehind,
        if_neg (Ne.symm hc)]
      exact ih hrest

theorem Item.held_of_holds {item : Item} (h : item.holds = true) :
    item.held = [holdMark] := by
  cases item with
  | slot name mode => rfl
  | plain c => rw [Item.held, eq_of_beq h]
  | quoted | cast => cases h

/-- An item that does not hold has no mark outside quotes. -/
theorem Item.Fits.holdMark_notMem {item : Item} {next : Option Char}
    (h : item.Fits next) (hholds : item.holds = false) :
    holdMark ∉ unquoted none item.held := by
  cases h with
  | quoted opens inside =>
      rw [Item.held, List.cons_append, unquoted]
      simp [opens, openBehind, unquoted_of_notMem inside]
  | cast => decide
  | list | single => cases hholds
  | @plain c _ outside _ =>
      have hc : c ≠ holdMark := ne_of_beq_false hholds
      simp [Item.held, unquoted, outside, hc.symm]

theorem Item.Fits.openAfter_held {item : Item} {next : Option Char}
    (h : item.Fits next) : openAfter none item.held = none := by
  rcases em item.IsSlot with ⟨name, mode, rfl⟩ | htext
  · rfl
  · rw [Item.held_eq_source htext]
    exact h.openAfter_source

/-- Rendering a held text writes placeholders for the items that hold, in their
order. -/
theorem Readable.renderFrom_heldText {template : List Item}
    (h : Readable template) (used : Nat) :
    dialect.renderFrom none used (heldText template) =
      source (withPlaceholders dialect used template) := by
  induction h generalizing used with
  | nil => rfl
  | @cons item rest fits _ ih =>
      rw [heldText_cons, Dialect.renderFrom_append, fits.openAfter_held]
      cases hholds : item.holds with
      | true =>
          have hmark : dialect.renderFrom none used [holdMark] =
              dialect.placeholder (used + 1) := by
            rw [Dialect.renderFrom, if_neg (by decide), if_pos rfl,
              Dialect.renderFrom, List.append_nil]
          have hcount : (unquoted none [holdMark]).count holdMark = 1 := rfl
          rw [Item.held_of_holds hholds, hmark, hcount, ih,
            withPlaceholders_cons_of_holds hholds, source_append,
            source_map_plain]
      | false =>
          have hnone := fits.holdMark_notMem hholds
          rw [Dialect.renderFrom_of_notMem hnone,
            List.count_eq_zero_of_not_mem hnone, Nat.add_zero, ih,
            withPlaceholders_cons hholds, source_cons,
            Item.held_eq_source (Item.not_isSlot_of_holds hholds)]

theorem Item.exists_source_eq_cons (item : Item) :
    ∃ c rest, item.source = c :: rest := by
  cases item with
  | slot name mode => cases mode <;> exact ⟨_, _, rfl⟩
  | quoted | cast | plain => exact ⟨_, _, rfl⟩

/-- A text with placeholders begins as the template does, or with a
placeholder. -/
theorem head?_withPlaceholders (used : Nat) (template : List Item) :
    (source (withPlaceholders dialect used template)).head? =
      (source template).head? ∨
      ∀ c, (source (withPlaceholders dialect used template)).head? = some c →
        c ≠ ':' ∧ isNameStart c = false := by
  cases template with
  | nil => exact .inl rfl
  | cons item rest =>
      cases hholds : item.holds with
      | true =>
          obtain ⟨first, others, hplaceholder, hcolon, hname, -⟩ :=
            dialect.exists_placeholder_eq_cons (used + 1)
          right
          rw [withPlaceholders_cons_of_holds hholds, source_append,
            source_map_plain, hplaceholder]
          rintro c ⟨⟩
          exact ⟨hcolon, hname⟩
      | false =>
          obtain ⟨c, behind, hsource⟩ := item.exists_source_eq_cons
          left
          rw [withPlaceholders_cons hholds, source_cons, source_cons, hsource]
          rfl

/-- An item that is no slot fits before a placeholder as it does before anything
else. -/
theorem Item.Fits.before_placeholder {item : Item} {next other : Option Char}
    (h : item.Fits next) (hholds : item.holds = false)
    (hother : other = next ∨ ∀ c, other = some c →
      c ≠ ':' ∧ isNameStart c = false) :
    item.Fits other := by
  rcases hother with rfl | hother
  · exact h
  cases h with
  | quoted opens inside => exact .quoted opens inside
  | cast => exact .cast
  | list | single => cases hholds
  | plain unquoted _ => exact .plain unquoted fun _ => hother

theorem Readable.append_plain {template : List Item} (h : Readable template)
    {text : List Char} (htext : ∀ c ∈ text, isQuote c = false ∧ c ≠ ':') :
    Readable (text.map .plain ++ template) := by
  induction text with
  | nil => exact h
  | cons c rest ih =>
      obtain ⟨⟨hquote, hcolon⟩, hrest⟩ := List.forall_mem_cons.mp htext
      exact .cons (.plain hquote fun hc => absurd hc hcolon) (ih hrest)

theorem plain_of_placeholder (ordinal : Nat) :
    ∀ c ∈ dialect.placeholder ordinal, isQuote c = false ∧ c ≠ ':' := by
  obtain ⟨first, others, hplaceholder, hcolon, -, hquote, hothers⟩ :=
    dialect.exists_placeholder_eq_cons ordinal
  rw [hplaceholder, List.forall_mem_cons]
  refine ⟨⟨hquote, hcolon⟩,
    fun c hc => ⟨isQuote_eq_false_of_name (.inr (hothers c hc)), ?_⟩⟩
  rintro rfl
  exact absurd (hothers ':' hc) (by decide)

/-- Placeholders create nothing that would be read otherwise: no slot, no cast
and no quote. -/
theorem Readable.withPlaceholders {template : List Item} (h : Readable template)
    (used : Nat) : Readable (withPlaceholders dialect used template) := by
  induction h generalizing used with
  | nil => exact .nil
  | @cons item rest fits _ ih =>
      cases hholds : item.holds with
      | true =>
          rw [withPlaceholders_cons_of_holds hholds]
          exact (ih (used + 1)).append_plain (plain_of_placeholder (used + 1))
      | false =>
          rw [withPlaceholders_cons hholds]
          exact .cons (fits.before_placeholder hholds
            (head?_withPlaceholders used rest)) (ih used)

theorem not_isSlot_of_mem_withPlaceholders (dialect : Dialect) (used : Nat)
    (template : List Item) :
    ∀ item ∈ withPlaceholders dialect used template, ¬item.IsSlot := by
  induction template generalizing used with
  | nil => exact List.forall_mem_nil _
  | cons item rest ih =>
      cases hholds : item.holds with
      | true =>
          rw [withPlaceholders_cons_of_holds hholds, List.forall_mem_append,
            List.forall_mem_map]
          refine ⟨fun c _ => ?_, ih (used + 1)⟩
          rintro ⟨_, _, ⟨⟩⟩
      | false =>
          rw [withPlaceholders_cons hholds, List.forall_mem_cons]
          exact ⟨Item.not_isSlot_of_holds hholds, ih used⟩

/-- A template without slots has no columns and is held as it is written. -/
theorem columns_of_noSlots {template : List Item}
    (h : ∀ item ∈ template, ¬item.IsSlot) :
    (∀ offset, columnsFrom offset template = []) ∧
      heldText template = source template := by
  induction template with
  | nil => exact ⟨fun _ => rfl, rfl⟩
  | cons item rest ih =>
      obtain ⟨hitem, hrest⟩ := List.forall_mem_cons.mp h
      obtain ⟨hcolumns, hheld⟩ := ih hrest
      refine ⟨fun offset => ?_, ?_⟩
      · rw [columnsFrom_cons hitem, hcolumns]
      · rw [heldText_cons, source_cons, Item.held_eq_source hitem, hheld]

theorem holds_of_mem_withPlaceholders (hdialect : dialect ≠ .question)
    {used : Nat} {template : List Item} :
    ∀ item ∈ withPlaceholders dialect used template, item.holds = false := by
  induction template generalizing used with
  | nil => exact List.forall_mem_nil _
  | cons item rest ih =>
      cases hholds : item.holds with
      | true =>
          rw [withPlaceholders_cons_of_holds hholds, List.forall_mem_append,
            List.forall_mem_map]
          refine ⟨fun c hc => beq_false_of_ne ?_, ih⟩
          rintro rfl
          exact Dialect.holdMark_notMem_placeholder hdialect (used + 1) hc
      | false =>
          rw [withPlaceholders_cons hholds, List.forall_mem_cons]
          exact ⟨hholds, ih⟩

theorem withPlaceholders_eq_self {template : List Item}
    (h : ∀ item ∈ template, item.holds = false) (used : Nat) :
    withPlaceholders dialect used template = template := by
  induction template with
  | nil => rfl
  | cons item rest ih =>
      obtain ⟨hitem, hrest⟩ := List.forall_mem_cons.mp h
      rw [withPlaceholders_cons hitem, ih hrest]

/-- Native text is rendered as it is: its placeholders are no marks, or stand
for themselves. -/
theorem Readable.render_native {template : List Item} (h : Readable template)
    (used : Nat) :
    dialect.render (source (Template.withPlaceholders dialect used template)) =
      source (Template.withPlaceholders dialect used template) := by
  by_cases hdialect : dialect = .question
  · rw [hdialect]
    exact Dialect.renderFrom_question none 0 _
  · have hnative : Readable (Template.withPlaceholders dialect used template) :=
      h.withPlaceholders used
    have hheld := (columns_of_noSlots
      (not_isSlot_of_mem_withPlaceholders dialect used template)).2
    rw [Dialect.render, ← hheld, hnative.renderFrom_heldText,
      withPlaceholders_eq_self (holds_of_mem_withPlaceholders hdialect), hheld]

end Template

end NamedSql
