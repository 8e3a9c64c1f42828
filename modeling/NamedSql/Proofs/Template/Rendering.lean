import NamedSql.Proofs.Template.Holding
import NamedSql.Proofs.Template.Quoting
import NamedSql.Template.Dialect
import Mathlib.Algebra.GroupWithZero.Nat

/-!
Rendering held texts. Rendering touches the hold marks outside quotes and
nothing else, and numbers them on from left to right. So where a template has no
such mark of its own, as many marks in its slots as there are values for them
become the placeholders of just these values.
-/

namespace NamedSql

namespace Dialect

open Template

variable {dialect : Dialect}

/-- The second of two texts is rendered behind the quote that the first leaves
open, its marks numbered on from those of the first. -/
theorem renderFrom_append (opened : Option Char) (used : Nat)
    (left right : List Char) :
    dialect.renderFrom opened used (left ++ right) =
      dialect.renderFrom opened used left ++
        dialect.renderFrom (openAfter opened left)
          (used + (unquoted opened left).count holdMark) right := by
  induction left generalizing opened used with
  | nil => rfl
  | cons c rest ih =>
      rw [List.cons_append, openAfter, List.foldl_cons]
      cases opened with
      | some mark =>
          rw [renderFrom, renderFrom, ih, List.cons_append]
          rfl
      | none =>
          rw [renderFrom, renderFrom, unquoted, openBehind, Option.isSome_none,
            Bool.false_or]
          split
          · rw [ih, List.cons_append]
            rfl
          · split
            · next hmark =>
                rw [ih, hmark, List.count_cons_self, Nat.add_right_comm,
                  Nat.add_assoc, List.append_assoc]
                rfl
            · next hmark =>
                rw [ih, List.count_cons_of_ne hmark, List.cons_append]
                rfl

/-- A text without marks outside quotes is left as it is. -/
theorem renderFrom_of_notMem {opened : Option Char} {text : List Char}
    (h : holdMark ∉ unquoted opened text) (used : Nat) :
    dialect.renderFrom opened used text = text := by
  induction text generalizing opened with
  | nil => rfl
  | cons c rest ih =>
      cases opened with
      | some mark => rw [renderFrom]; exact congrArg (c :: ·) (ih h)
      | none =>
          rw [unquoted, Option.isSome_none, Bool.false_or] at h
          rw [renderFrom]
          split
          · next hquote =>
              rw [if_pos hquote, openBehind, if_pos hquote] at h
              rw [ih h]
          · next hquote =>
              rw [if_neg hquote, List.mem_cons, not_or] at h
              rw [if_neg (Ne.symm h.1), ih h.2]

/-- The placeholders of `count` arguments behind `used` others, parted by
commas. -/
def numbered (dialect : Dialect) (used count : Nat) : List Char :=
  [','].intercalate ((List.range' (used + 1) count).map dialect.placeholder)

/-- The placeholders for columns that take the given numbers of arguments,
column by column. -/
def runs (dialect : Dialect) : Nat → List Nat → List (List Char)
  | _, [] => []
  | used, count :: counts =>
      dialect.numbered used count :: dialect.runs (used + count) counts

end Dialect

namespace Template

theorem isQuote_of_mem_marks {count : Nat} :
    ∀ c ∈ marks count, isQuote c = false := by
  rcases count with _ | count
  · exact List.forall_mem_nil _
  · induction count with
    | zero =>
        rw [marks_one, List.forall_mem_singleton]
        decide
    | succ count ih =>
        rw [marks_succ, List.forall_mem_cons, List.forall_mem_cons]
        exact ⟨by decide, by decide, ih⟩

theorem count_marks (count : Nat) : (marks count).count holdMark = count := by
  rcases count with _ | count
  · rfl
  · induction count with
    | zero => rfl
    | succ count ih =>
        rw [marks_succ, List.count_cons_self,
          List.count_cons_of_ne (by decide), ih]

theorem renderFrom_marks {dialect : Dialect} (used count : Nat) :
    dialect.renderFrom none used (marks count) =
      dialect.numbered used count := by
  rcases count with _ | count
  · rfl
  · induction count generalizing used with
    | zero =>
        rw [marks_one, Dialect.renderFrom, if_neg (by decide), if_pos rfl]
        rfl
    | succ count ih =>
        rw [marks_succ, Dialect.renderFrom, if_neg (by decide), if_pos rfl,
          Dialect.renderFrom, if_neg (by decide), if_neg (by decide), ih]
        rfl

/-- The held text with the given texts in place of the slots. -/
def withSlots : List Item → List (List Char) → List Char
  | [], _ => []
  | item :: rest, texts =>
      match item with
      | .slot _ _ => texts.headD [] ++ withSlots rest texts.tail
      | _ => item.held ++ withSlots rest texts

def Item.IsSlot (item : Item) : Prop :=
  ∃ name mode, item = .slot name mode

theorem withSlots_slot (name : List Char) (mode : SlotMode) (rest : List Item)
    (text : List Char) (texts : List (List Char)) :
    withSlots (.slot name mode :: rest) (text :: texts) =
      text ++ withSlots rest texts :=
  rfl

/-- What is no slot stays as it is held. -/
theorem withSlots_cons {item : Item} (h : ¬item.IsSlot) (rest : List Item)
    (texts : List (List Char)) :
    withSlots (item :: rest) texts = item.held ++ withSlots rest texts := by
  cases item with
  | slot name mode => exact absurd ⟨name, mode, rfl⟩ h
  | quoted | cast | plain => rfl

theorem columnsFrom_cons {item : Item} (h : ¬item.IsSlot) (rest : List Item)
    (offset : Nat) :
    columnsFrom offset (item :: rest) =
      columnsFrom (offset + Text.utf8Width item.held) rest := by
  cases item with
  | slot name mode => exact absurd ⟨name, mode, rfl⟩ h
  | quoted | cast | plain => rfl

theorem Item.held_eq_source {item : Item} (h : ¬item.IsSlot) :
    item.held = item.source := by
  cases item with
  | slot name mode => exact absurd ⟨name, mode, rfl⟩ h
  | quoted | cast | plain => rfl

/-- Unless it is a slot, the item leaves no quote open and has no mark outside
quotes. -/
def Item.Settled (item : Item) : Prop :=
  ¬item.IsSlot →
    openAfter none item.held = none ∧ holdMark ∉ unquoted none item.held

/-- Where no mark stands outside quotes, no item but the slots has one. -/
theorem settled_of_readable {template : List Item} (h : Readable template)
    (hbare : holdMark ∉ unquoted none (source template)) :
    ∀ item ∈ template, item.Settled := by
  induction h with
  | nil => exact List.forall_mem_nil _
  | @cons item rest fits _ ih =>
      have hopen := fits.openAfter_source
      rw [source_cons, unquoted_append, hopen, List.mem_append, not_or] at hbare
      obtain ⟨hitem, hrest⟩ := hbare
      rw [List.forall_mem_cons]
      refine ⟨fun htext => ?_, ih hrest⟩
      rw [Item.held_eq_source htext]
      exact ⟨hopen, hitem⟩

variable {template : List Item} {counts : List Nat}

/-- Marks in the slots are rendered as the placeholders of their columns. -/
theorem renderFrom_withSlots {dialect : Dialect}
    (h : ∀ item ∈ template, item.Settled) (used : Nat) :
    dialect.renderFrom none used (withSlots template (counts.map marks)) =
      withSlots template (dialect.runs used counts) := by
  induction template generalizing used counts with
  | nil => rfl
  | cons item rest ih =>
      obtain ⟨hitem, hrest⟩ := List.forall_mem_cons.mp h
      rcases em item.IsSlot with ⟨name, mode, rfl⟩ | htext
      · cases counts with
        | nil =>
            change dialect.renderFrom none used
              (withSlots rest (([] : List Nat).map marks)) =
              withSlots rest (dialect.runs used [])
            exact ih hrest used
        | cons count counts =>
            rw [List.map_cons, Dialect.runs, withSlots_slot, withSlots_slot,
              Dialect.renderFrom_append, renderFrom_marks,
              openAfter_of_plain isQuote_of_mem_marks,
              unquoted_of_plain isQuote_of_mem_marks, count_marks, ih hrest]
      · obtain ⟨hopen, hbare⟩ := hitem htext
        rw [withSlots_cons htext, withSlots_cons htext,
          Dialect.renderFrom_append, hopen, Dialect.renderFrom_of_notMem hbare,
          List.count_eq_zero_of_not_mem hbare, Nat.add_zero, ih hrest]

/-- The marks outside quotes are those in the slots. -/
theorem count_unquoted_withSlots (h : ∀ item ∈ template, item.Settled)
    {offset : Nat}
    (hlength : counts.length = (columnsFrom offset template).length) :
    (unquoted none (withSlots template (counts.map marks))).count holdMark =
      counts.sum := by
  induction template generalizing offset counts with
  | nil =>
      obtain rfl := List.eq_nil_of_length_eq_zero hlength
      rfl
  | cons item rest ih =>
      obtain ⟨hitem, hrest⟩ := List.forall_mem_cons.mp h
      rcases em item.IsSlot with ⟨name, mode, rfl⟩ | htext
      · cases counts with
        | nil => cases hlength
        | cons count counts =>
            rw [List.map_cons, withSlots_slot, unquoted_append,
              openAfter_of_plain isQuote_of_mem_marks,
              unquoted_of_plain isQuote_of_mem_marks, List.count_append,
              count_marks, ih hrest (Nat.succ.inj hlength), List.sum_cons]
      · obtain ⟨hopen, hbare⟩ := hitem htext
        rw [columnsFrom_cons htext] at hlength
        rw [withSlots_cons htext, unquoted_append, hopen, List.count_append,
          List.count_eq_zero_of_not_mem hbare, Nat.zero_add, ih hrest hlength]

/-- The held text widened at the first column that takes several values, if
there is one. -/
def widened? (held : List Char) : List Column → List Nat → Option (List Char)
  | column :: columns, count :: counts =>
      if 1 < count then some (expandHold held column.position count)
      else widened? held columns counts
  | _, _ => none

theorem widened?_of_narrow {held : List Char} {columns : List Column}
    (h : ∀ count ∈ counts, count ≤ 1) :
    widened? held columns counts = none := by
  induction columns generalizing counts with
  | nil => rfl
  | cons column rest ih =>
      cases counts with
      | nil => rfl
      | cons count counts =>
          obtain ⟨hcount, hcounts⟩ := List.forall_mem_cons.mp h
          rw [widened?, if_neg (by omega), ih hcounts]

/-- The held text has one mark in every slot. -/
theorem withSlots_of_single {offset : Nat}
    (hlength : counts.length = (columnsFrom offset template).length)
    (hsingle : ∀ count ∈ counts, count = 1) :
    withSlots template (counts.map marks) = heldText template := by
  induction template generalizing offset counts with
  | nil => rfl
  | cons item rest ih =>
      rw [heldText_cons]
      rcases em item.IsSlot with ⟨name, mode, rfl⟩ | htext
      · cases counts with
        | nil => cases hlength
        | cons count counts =>
            obtain ⟨rfl, hcounts⟩ := List.forall_mem_cons.mp hsingle
            rw [List.map_cons, withSlots_slot,
              ih (Nat.succ.inj hlength) hcounts]
            rfl
      · rw [columnsFrom_cons htext] at hlength
        rw [withSlots_cons htext, ih hlength hsingle]

/-- Widening the one column that takes several values puts as many marks into
its slot. -/
theorem widened?_getD (before : List Char)
    (hlength : counts.length =
      (columnsFrom (Text.utf8Width before) template).length)
    (hfilled : ∀ count ∈ counts, 0 < count)
    (hwide : counts.countP (1 < ·) ≤ 1) :
    (widened? (before ++ heldText template)
        (columnsFrom (Text.utf8Width before) template) counts).getD
        (before ++ heldText template) =
      before ++ withSlots template (counts.map marks) := by
  induction template generalizing before counts with
  | nil => rfl
  | cons item rest ih =>
      have hnext : Text.utf8Width before + Text.utf8Width item.held =
          Text.utf8Width (before ++ item.held) :=
            (Text.utf8Width_append _ _).symm
      rcases em item.IsSlot with ⟨name, mode, rfl⟩ | htext
      · cases counts with
        | nil => cases hlength
        | cons count counts =>
            obtain ⟨hcount, hcounts⟩ := List.forall_mem_cons.mp hfilled
            rw [List.map_cons, withSlots_slot, ← List.append_assoc]
            by_cases hmany : 1 < count
            · rw [List.countP_cons_of_pos (by simpa using hmany)] at hwide
              have hnone : counts.countP (1 < ·) = 0 := by omega
              have hsingle : ∀ count ∈ counts, count = 1 := by
                intro count hmem
                have hsome := hcounts count hmem
                have hfew := List.countP_eq_zero.mp hnone count hmem
                rw [decide_eq_true_eq] at hfew
                omega
              rw [withSlots_of_single (Nat.succ.inj hlength) hsingle,
                ← expandHold_append]
              simp only [columnsFrom, widened?, if_pos hmany]
              rfl
            · obtain rfl : count = 1 := by omega
              rw [List.countP_cons_of_neg (by simp)] at hwide
              have hrest := ih (before ++ (Item.slot name mode).held)
                (hnext ▸ Nat.succ.inj hlength) hcounts hwide
              rw [List.append_assoc, ← hnext] at hrest
              exact hrest
      · rw [columnsFrom_cons htext, hnext] at hlength
        rw [heldText_cons, withSlots_cons htext, columnsFrom_cons htext, hnext,
          ← List.append_assoc, ← List.append_assoc, ih _ hlength hfilled hwide]

end Template

end NamedSql
