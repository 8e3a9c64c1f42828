import NamedSql.Proofs.Template.Reading

/-!
Texts put together from parts. A part that is empty or begins with a character
that continues nothing is read as if no text stood before it, but for a quote
that the text before has left open.
-/

namespace NamedSql.Template

/-- The character continues no name, no colon and no bracket before it. -/
def setsApart (c : Char) : Bool :=
  !isNameChar c && c != ':' && c != '[' && c != ']'

theorem setsApart_iff {c : Char} : setsApart c = true ↔
    isNameChar c = false ∧ c ≠ ':' ∧ c ≠ '[' ∧ c ≠ ']' := by
  simp [setsApart, and_assoc]

theorem isNameStart_eq_false {c : Char} (h : isNameChar c = false) :
    isNameStart c = false := by
  simp only [isNameChar, Char.isAlphanum, Bool.or_eq_false_iff] at h
  obtain ⟨⟨⟨hletter, -⟩, hline⟩, -⟩ := h
  rw [isNameStart, hletter, hline]
  rfl

/-- The text is empty or begins with a character that continues nothing before
it. -/
def OpensApart (text : List Char) : Prop :=
  ∀ c, text.head? = some c → setsApart c = true

instance : DecidablePred OpensApart := fun text =>
  decidable_of_iff (text.head?.all setsApart = true)
    (by simp [OpensApart, Option.all_eq_true])

theorem opensApart_nil : OpensApart [] := by
  intro c hnone
  cases hnone

theorem OpensApart.append {left right : List Char} (hleft : OpensApart left)
    (hright : OpensApart right) : OpensApart (left ++ right) := by
  cases left with
  | nil => exact hright
  | cons c rest => exact hleft

theorem OpensApart.flatten {texts : List (List Char)}
    (h : ∀ text ∈ texts, OpensApart text) : OpensApart texts.flatten := by
  induction texts with
  | nil => exact opensApart_nil
  | cons text rest ih =>
      obtain ⟨htext, hrest⟩ := List.forall_mem_cons.mp h
      exact htext.append (ih hrest)

/-- The text is empty or begins with a space. -/
def OpensBlank (text : List Char) : Prop :=
  ∀ c, text.head? = some c → c = ' '

instance : DecidablePred OpensBlank := fun text =>
  decidable_of_iff (text.head?.all (· == ' ') = true)
    (by simp [OpensBlank, Option.all_eq_true])

theorem OpensBlank.opensApart {text : List Char} (h : OpensBlank text) :
    OpensApart text := by
  intro c hhead
  rw [h c hhead]
  decide

/-- What fits at the end of a text fits before what continues nothing. -/
theorem Item.Fits.before_apart {item : Item} {c : Char} (h : item.Fits none)
    (hc : setsApart c = true) : item.Fits (some c) := by
  obtain ⟨hname, hcolon, hopens, -⟩ := setsApart_iff.mp hc
  cases h with
  | quoted opens inside => exact .quoted opens inside
  | cast => exact .cast
  | list starts goes_on => exact .list starts goes_on
  | single starts goes_on _ =>
      refine .single starts goes_on ?_
      rintro d ⟨⟩
      exact ⟨hname, hopens⟩
  | plain unquoted _ =>
      refine .plain unquoted ?_
      rintro - d ⟨⟩
      exact ⟨hcolon, isNameStart_eq_false hname⟩

theorem Item.Fits.append_apart {item : Item} {behind right : List Char}
    (h : item.Fits behind.head?) (hright : OpensApart right) :
    item.Fits (behind ++ right).head? := by
  cases behind with
  | cons c rest => exact h
  | nil =>
      cases right with
      | nil => exact h
      | cons c rest => exact h.before_apart (hright c rfl)

theorem ReadBefore.append_apart {behind right : List Char}
    {template : List Item} (h : ReadBefore behind template)
    (hright : OpensApart right) : ReadBefore (behind ++ right) template := by
  induction h with
  | nil => exact .nil
  | cons fits _ ih =>
      refine .cons ?_ ih
      rw [← List.append_assoc]
      exact fits.append_apart hright

/-- A text that reads on its own is read first, and then the part behind it. -/
theorem items_append {left right : List Char} {template : List Item}
    (hleft : items left = .ok template) (hright : OpensApart right) :
    items (left ++ right) = (template ++ ·) <$> items right := by
  obtain ⟨rfl, hreadable⟩ := items_eq_ok_iff.mp hleft
  have hread := (readBefore_nil_iff.mpr hreadable).append_apart hright
  exact hread.items_append

/-- Why a text does not read, if it does not. -/
def fault (text : List Char) : Option Malformation :=
  match items text with
  | .ok _ => none
  | .error cause => some cause

theorem fault_eq_none_iff {text : List Char} :
    fault text = none ↔ ∃ template, items text = .ok template := by
  rw [fault]
  cases items text with
  | ok template => simp
  | error cause => simp

theorem fault_eq_none_of_readable (template : List Item) {text : List Char}
    (hsource : source template = text) (hreadable : Readable template) :
    fault text = none :=
  fault_eq_none_iff.mpr ⟨template, items_eq_ok_iff.mpr ⟨hsource, hreadable⟩⟩

theorem Halt.fault_eq {halted : List Char} {cause : Option Malformation}
    (h : Halt halted cause) : fault halted = cause := by
  rw [fault, h.items_eq]
  cases cause <;> rfl

theorem ReadBefore.fault_eq {behind : List Char} {template : List Item}
    (h : ReadBefore behind template) :
    fault (source template ++ behind) = fault behind := by
  rw [fault, fault, h.items_append]
  cases items behind <;> rfl

/-- Only where a quoted run ends matters, not what is in it. -/
theorem fault_quoted {mark : Char} (hopens : isQuote mark = true)
    (text : List Char) :
    fault (mark :: text) = match Text.splitFirst? mark text with
      | none => some (.unterminatedQuote mark)
      | some (_, after) => fault after := by
  cases hsplit : Text.splitFirst? mark text with
  | none =>
      exact (Halt.quote hopens
        (Text.splitFirst?_eq_none_iff.mp hsplit)).fault_eq
  | some found =>
      obtain ⟨body, after⟩ := found
      obtain ⟨rfl, hinside⟩ := Text.eq_append_of_splitFirst? hsplit
      have hread : ReadBefore after [.quoted mark body] :=
        .cons (.quoted hopens hinside) .nil
      have hsource : source [.quoted mark body] ++ after =
          mark :: (body ++ mark :: after) := by
        simp [source, Item.source]
      rw [← hsource, hread.fault_eq]

/-- What is wrong with a text is found in its first part, or in its second part
behind the quote that the first has left open. -/
theorem fault_append {left right : List Char} (hright : OpensApart right) :
    fault (left ++ right) = match fault left with
      | none => fault right
      | some (.unterminatedQuote mark) => fault (mark :: right)
      | some (.unterminatedList name) => some (.unterminatedList name) := by
  obtain ⟨template, halted, cause, rfl, hread, hhalt⟩ := exists_halt left
  rw [List.append_assoc, (hread.append_apart hright).fault_eq, hread.fault_eq,
    hhalt.fault_eq]
  cases hhalt with
  | finished => rfl
  | @quote mark body opens inside =>
      change fault (mark :: (body ++ right)) = fault (mark :: right)
      rw [fault_quoted opens, fault_quoted opens,
        Text.splitFirst?_append_of_notMem inside]
      cases Text.splitFirst? mark right <;> rfl
  | @list first others tail starts goes_on cut =>
      have hcut : (tail ++ right).head? ≠ some ']' := by
        intro hhead
        cases tail with
        | nil => exact absurd (hright ']' hhead) (by decide)
        | cons c rest => exact cut hhead
      have htext : ':' :: first :: (others ++ '[' :: tail) ++ right =
          ':' :: first :: (others ++ '[' :: (tail ++ right)) := by simp
      rw [htext]
      exact (Halt.list starts goes_on hcut).fault_eq

end NamedSql.Template
