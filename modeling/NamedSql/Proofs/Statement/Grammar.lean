import NamedSql.Proofs.Statement.Normal
import NamedSql.Proofs.Template.Native

/-!
Which texts normalize, and what they become. A text normalizes where it is a
sequence of items, each of which fits before the next; what it becomes is read
off the items one by one. The result is a sequence of items itself, so that
native SQL normalizes to itself.
-/

namespace NamedSql

namespace Template

/-- The template as it is written, but for a mark in place of every slot. -/
def marked (template : List Item) : List Char :=
  template.flatMap fun item => if item.IsSlot then [holdMark] else item.source

theorem heldText_eq_marked (template : List Item) :
    heldText template = marked template := by
  refine List.flatMap_congr fun item _ => ?_
  split
  · next hslot =>
      obtain ⟨name, mode, rfl⟩ := hslot
      rfl
  · next htext => exact item.held_eq_source htext

theorem length_columnsFrom (offset : Nat) (template : List Item) :
    (columnsFrom offset template).length = template.countP (Item.IsSlot ·) := by
  induction template generalizing offset with
  | nil => rfl
  | cons item rest ih =>
      rcases em item.IsSlot with ⟨name, mode, rfl⟩ | htext
      · rw [List.countP_cons_of_pos (by simp [Item.IsSlot]), ← ih]
        rfl
      · rw [columnsFrom_cons htext,
          List.countP_cons_of_neg (by simpa using htext), ih]

/-- A slot is the column behind those of the slots before it. -/
theorem columns_slot (before after : List Item) (name : List Char)
    (mode : SlotMode) :
    (columns (before ++ .slot name mode :: after))[before.countP
        (Item.IsSlot ·)]? =
      some ⟨String.ofList name,
        (String.ofList (marked before)).utf8ByteSize + 1, mode⟩ := by
  rw [columns, columnsFrom_append,
    List.getElem?_append_right (by rw [length_columnsFrom]), length_columnsFrom,
    Nat.sub_self, Nat.zero_add, Text.utf8ByteSize_ofList, heldText_eq_marked]
  rfl

end Template

namespace Statement

open Template

variable {dialect : Dialect} {s normal : Statement}

/-- What a statement becomes whose text is written as the template. Positions
count bytes. -/
structure Reads (dialect : Dialect) (template : List Item)
    (s normal : Statement) : Prop where
  rest : normal =
    { s with
      columns := normal.columns, held := normal.held,
      resolved := normal.resolved }
  held : normal.held = String.ofList (marked template)
  slots : normal.columns.length = template.countP (Item.IsSlot ·)
  columns :
      ∀ before name mode after, template = before ++ .slot name mode :: after →
    normal.columns[before.countP (Item.IsSlot ·)]? =
      some ⟨String.ofList name,
        (String.ofList (marked before)).utf8ByteSize + 1, mode⟩
  resolved : normal.resolved =
    String.ofList (source (withPlaceholders dialect 0 template))
  question : dialect = .question → normal.resolved = normal.held

theorem reads_of_normalize {template : List Item}
    (htemplate : items s.text.toList = .ok template)
    (h : s.normalize dialect = .ok normal) :
    Reads dialect template s normal := by
  obtain ⟨found, hfound, rfl⟩ := normalize_eq_ok_iff.mp h
  obtain rfl : template = found := Except.ok.inj (htemplate.symm.trans hfound)
  obtain ⟨-, hreadable⟩ := items_eq_ok_iff.mp htemplate
  refine ⟨rfl, ?_, length_columnsFrom 0 template, ?_, ?_, ?_⟩
  · rw [heldText_eq_marked]
  · rintro before name mode after rfl
    exact columns_slot before after name mode
  · rw [Dialect.render, hreadable.renderFrom_heldText]
  · rintro rfl
    exact congrArg String.ofList (Dialect.renderFrom_question none 0 _)

/-- A text that is a sequence of items normalizes to what the items say, and a
text that normalizes is such a sequence. -/
theorem normalize_reads_items (dialect : Dialect) (s : Statement) :
    (∀ template, Readable template → source template = s.text.toList →
      ∃ normal, s.normalize dialect = .ok normal ∧
        Reads dialect template s normal) ∧
    (∀ normal, s.normalize dialect = .ok normal →
      ∃ template, Readable template ∧ source template = s.text.toList ∧
        Reads dialect template s normal) := by
  constructor
  · intro template hreadable hsource
    have htemplate := items_eq_ok_iff.mpr ⟨hsource, hreadable⟩
    have hnormal : s.normalize dialect = .ok _ :=
      normalize_eq_ok_iff.mpr ⟨template, htemplate, rfl⟩
    exact ⟨_, hnormal, reads_of_normalize htemplate hnormal⟩
  · intro normal hnormal
    obtain ⟨template, htemplate, -⟩ := normalize_eq_ok_iff.mp hnormal
    obtain ⟨hsource, hreadable⟩ := items_eq_ok_iff.mp htemplate
    exact ⟨template, hreadable, hsource, reads_of_normalize htemplate hnormal⟩

/-- Colons stand before a slot, before a quote and alone; marks stand in quotes
and outside. -/
theorem normalize_reads_items_between_colons :
    let s : Statement := .raw "q" .select "é`:x`:::a.b?:i[]:' ?:'::t :?" []
    let template : List Item := [.plain 'é', .quoted '\x60' [':', 'x'], .cast,
      .slot ['a', '.', 'b'] .single, .plain '?', .slot ['i'] .list, .plain ':',
      .quoted '\'' [' ', '?', ':'], .cast, .plain 't', .plain ' ', .plain ':',
      .plain '?']
    Readable template ∧ source template = s.text.toList ∧
      ∃ normal, s.normalize .dollar = .ok normal ∧
      normal.held = "é`:x`::???:' ?:'::t :?" ∧
        normal.columns = [⟨"a.b", 9, .single⟩, ⟨"i", 11, .list⟩] ∧
        normal.resolved = "é`:x`::$1$2$3:' ?:'::t :$4" := by
  intro s template
  have hreadable : Readable template := by decide
  have hsource : source template = s.text.toList := by decide
  obtain ⟨normal, hnormal, hreads⟩ :=
    (normalize_reads_items .dollar s).1 template hreadable hsource
  have hfirst := hreads.columns (template.take 3) ['a', '.', 'b'] .single _ rfl
  have hsecond := hreads.columns (template.take 5) ['i'] .list _ rfl
  have hlength : normal.columns.length = 2 := hreads.slots.trans (by decide)
  obtain ⟨first, second, hcolumns⟩ := List.length_eq_two.mp hlength
  rw [hcolumns] at hfirst hsecond
  refine ⟨hreadable, hsource, normal, hnormal,
    hreads.held.trans (by decide), ?_, hreads.resolved.trans (by decide)⟩
  rw [hcolumns, Option.some.inj hfirst, Option.some.inj hsecond]
  decide

/-- Native SQL normalizes to itself: there is no slot in it, and rendering it
changes nothing. -/
theorem normalize_of_native {other : Statement}
    (h : s.normalize dialect = .ok normal)
    (hnative : other.text = normal.resolved) :
    other.normalize dialect =
      .ok { other with
        columns := [], held := normal.resolved,
        resolved := normal.resolved } := by
  obtain ⟨template, htemplate, -⟩ := normalize_eq_ok_iff.mp h
  obtain ⟨-, hreadable⟩ := items_eq_ok_iff.mp htemplate
  have hreads := reads_of_normalize htemplate h
  obtain ⟨hcolumns, hheld⟩ :=
    columns_of_noSlots (not_isSlot_of_mem_withPlaceholders dialect 0 template)
  refine normalize_eq_ok_iff.mpr ⟨withPlaceholders dialect 0 template, ?_, ?_⟩
  · rw [hnative, hreads.resolved, String.toList_ofList]
    exact items_of_readable (hreadable.withPlaceholders 0)
  · rw [Template.columns, hcolumns, hheld, hreadable.render_native,
      ← hreads.resolved]

/-- The placeholders stand behind a cast and before digits, and a lone colon
before a mark. -/
theorem normalize_of_native_behind_colons :
    let s : Statement := .raw "q" .update "é:::k = :?5 + ':k?':i[]2" []
    let normal : Statement := { s with
      columns := [⟨"k", 5, .single⟩, ⟨"i", 20, .list⟩]
      held := "é::? = :?5 + ':k?'?2"
      resolved := "é::@p1 = :@p25 + ':k?'@p32" }
    let native : Statement :=
      .raw "again" .select "é::@p1 = :@p25 + ':k?'@p32" []
    s.normalize .atP = .ok normal ∧ native.text = normal.resolved ∧
      native.normalize .atP =
        .ok { native with held := native.text, resolved := native.text } := by
  intro s normal native
  have hitems : items s.text.toList =
    .ok [.plain 'é', .cast, .slot ['k'] .single, .plain ' ',
      .plain '=', .plain ' ', .plain ':', .plain '?', .plain '5', .plain ' ',
      .plain '+', .plain ' ', .quoted '\'' [':', 'k', '?'], .slot ['i'] .list,
      .plain '2'] :=
    items_eq_ok_iff.mpr ⟨by decide, by decide⟩
  have hnormal : s.normalize .atP = .ok normal :=
    normalize_eq_ok_iff.mpr ⟨_, hitems, by decide⟩
  exact ⟨hnormal, rfl, normalize_of_native hnormal rfl⟩

end Statement

end NamedSql
