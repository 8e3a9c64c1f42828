import NamedSql.Proofs.Template.Reading

/-!
Held texts and where columns stand in them. A column is a slot of the template,
and its position is that of the hold mark behind the held text of the items
before the slot, counted in bytes. Widening the mark of a list gives the held
text of a template in which the list is written out.
-/

namespace NamedSql

namespace Text

theorem utf8Width_append (left right : List Char) :
    utf8Width (left ++ right) = utf8Width left + utf8Width right := by
  induction left with
  | nil => rw [List.nil_append, utf8Width, Nat.zero_add]
  | cons c rest ih =>
      rw [List.cons_append, utf8Width, utf8Width, ih, Nat.add_assoc]

theorem utf8ByteSize_ofList (text : List Char) :
    (String.ofList text).utf8ByteSize = utf8Width text := by
  induction text with
  | nil => rfl
  | cons c rest ih =>
      rw [String.ofList_cons, String.utf8ByteSize_append,
        String.utf8ByteSize_singleton, ih, utf8Width]

/-- A cut behind whole characters gives the characters before it and those
behind it. -/
theorem splitAtByte_append (left right : List Char) :
    splitAtByte (utf8Width left) (left ++ right) = (left, right) := by
  induction left with
  | nil => cases right <;> rfl
  | cons c rest ih =>
      have hpos := c.utf8Size_pos
      have hrest :
          c.utf8Size + utf8Width rest - c.utf8Size = utf8Width rest := by omega
      rw [List.cons_append, utf8Width, splitAtByte, if_neg (by omega),
        hrest, ih]

end Text

/-- The column with `bytes` more of held text in front of it. -/
def Column.shift (bytes : Nat) (column : Column) : Column :=
  { column with position := bytes + column.position }

namespace Template

theorem heldText_append (left right : List Item) :
    heldText (left ++ right) = heldText left ++ heldText right :=
  List.flatMap_append

theorem heldText_cons (item : Item) (rest : List Item) :
    heldText (item :: rest) = item.held ++ heldText rest :=
  List.flatMap_cons

theorem columnsFrom_append (offset : Nat) (left right : List Item) :
    columnsFrom offset (left ++ right) =
      columnsFrom offset left ++
        columnsFrom (offset + Text.utf8Width (heldText left)) right := by
  induction left generalizing offset with
  | nil => rfl
  | cons item rest ih =>
      rw [heldText_cons, Text.utf8Width_append, ← Nat.add_assoc]
      cases item <;> simp [columnsFrom, ih]

/-- Held text in front of a template shifts its columns. -/
theorem columnsFrom_add (bytes offset : Nat) (template : List Item) :
    columnsFrom (bytes + offset) template =
      (columnsFrom offset template).map (Column.shift bytes) := by
  induction template generalizing offset with
  | nil => rfl
  | cons item rest ih =>
      have hrest := ih (offset + Text.utf8Width item.held)
      rw [← Nat.add_assoc] at hrest
      cases item with
      | slot name mode => exact congrArg _ hrest
      | quoted | cast | plain => exact hrest

theorem columnsFrom_eq_map (offset : Nat) (template : List Item) :
    columnsFrom offset template =
      (columns template).map (Column.shift offset) :=
  columnsFrom_add offset 0 template

/-- The column at an index is a slot with as many columns before it. -/
theorem slot_of_columnsFrom {offset index : Nat} {template : List Item}
    {column : Column}
    (h : (columnsFrom offset template)[index]? = some column) :
    ∃ before name after,
      template = before ++ .slot name column.mode :: after ∧
      (columnsFrom offset before).length = index ∧
      column.name = String.ofList name ∧
      column.position = offset + Text.utf8Width (heldText before) + 1 := by
  induction template generalizing offset index with
  | nil => cases h
  | cons item rest ih =>
      -- a column that is not the item's own is found behind it, with the item
      -- put back in front
      have hbehind {next count : Nat}
          (hnext : next = offset + Text.utf8Width item.held)
          (hfound : (columnsFrom next rest)[count]? = some column)
          (hcount : ∀ before, (columnsFrom offset (item :: before)).length =
            (columnsFrom next before).length + (index - count))
          (hle : count ≤ index) :
          ∃ before name after,
            item :: rest = before ++ .slot name column.mode :: after ∧
            (columnsFrom offset before).length = index ∧
            column.name = String.ofList name ∧
            column.position =
              offset + Text.utf8Width (heldText before) + 1 := by
        obtain ⟨before, name, after, rfl, hlength, hname, hposition⟩ :=
          ih hfound
        refine ⟨item :: before, name, after, rfl, ?_, hname, ?_⟩
        · rw [hcount, hlength]
          omega
        · rw [hposition, hnext, heldText_cons, Text.utf8Width_append]
          omega
      cases item with
      | slot name mode =>
          cases index with
          | zero =>
              obtain rfl := Option.some.inj h
              exact ⟨[], name, rest, rfl, rfl, rfl,
                by simp [heldText, Text.utf8Width]⟩
          | succ index =>
              exact hbehind rfl h (fun _ => by simp [columnsFrom]) (by omega)
      | quoted | cast | plain =>
          exact hbehind rfl h (fun _ => by simp [columnsFrom]) (by omega)

theorem slot_of_columns {template : List Item} {index : Nat} {column : Column}
    (h : (columns template)[index]? = some column) : ∃ before name after,
      template = before ++ .slot name column.mode :: after ∧
        (columns before).length = index ∧
      column.name = String.ofList name ∧
      column.position = Text.utf8Width (heldText before) + 1 := by
  obtain ⟨before, name, after, htemplate, hlength, hname, hposition⟩ :=
    slot_of_columnsFrom h
  exact ⟨before, name, after, htemplate, hlength, hname,
    by rw [hposition, Nat.zero_add]⟩

/-- Several slots of one name, parted by commas. -/
def writtenOut (name : List Char) (count : Nat) : List Item :=
  (List.replicate count (Item.slot name .list)).intersperse (.plain ',')

theorem writtenOut_succ (name : List Char) (count : Nat) :
    writtenOut name (count + 2) =
      .slot name .list :: .plain ',' :: writtenOut name (count + 1) := by
  rfl

/-- Hold marks parted by commas. -/
def marks (count : Nat) : List Char :=
  (List.replicate count holdMark).intersperse ','

theorem marks_one : marks 1 = [holdMark] := rfl

theorem marks_succ (count : Nat) :
    marks (count + 2) = holdMark :: ',' :: marks (count + 1) := rfl

theorem heldText_writtenOut (name : List Char) (count : Nat) :
    heldText (writtenOut name count) = marks count := by
  rcases count with _ | count
  · rfl
  · induction count with
    | zero => rfl
    | succ count ih =>
        rw [writtenOut_succ, heldText_cons, heldText_cons, ih]
        rfl

theorem source_writtenOut (name : List Char) (count : Nat) :
    source (writtenOut name count) =
      [','].intercalate
        (List.replicate count (Item.slot name .list).source) := by
  rcases count with _ | count
  · rfl
  · induction count with
    | zero => simp [writtenOut, source]
    | succ count ih =>
        rw [writtenOut_succ, source_cons, source_cons, ih]
        rfl

/-- What stands before a text may stand before another one that begins with the
same character. -/
theorem Readable.replace {left right other : List Item}
    (h : Readable (left ++ right)) (hother : Readable other)
    (hhead : (source other).head? = (source right).head?) :
    Readable (left ++ other) := by
  induction left with
  | nil => exact hother
  | cons item rest ih =>
      cases h with
      | cons fits readable =>
          refine .cons ?_ (ih readable)
          have hsame : (source (rest ++ other)).head? =
              (source (rest ++ right)).head? := by
            rw [source_append, source_append, List.head?_append,
              List.head?_append, hhead]
          rw [List.append_eq, hsame]
          exact fits

theorem Readable.of_append {left right : List Item}
    (h : Readable (left ++ right)) : Readable right := by
  induction left with
  | nil => exact h
  | cons item rest ih =>
      cases h with
      | cons _ readable => exact ih readable

theorem source_writtenOut_head? (name : List Char) (count : Nat)
    (after : List Item) :
    (source (writtenOut name (count + 1) ++ after)).head? = some ':' := by
  rw [source_append, source_writtenOut]
  cases count <;> rfl

/-- A template in which a list is written out is readable again. -/
theorem Readable.writtenOut {before after : List Item} {name : List Char}
    {count : Nat} (h : Readable (before ++ .slot name .list :: after))
    (hcount : 0 < count) :
    Readable (before ++ writtenOut name count ++ after) := by
  obtain ⟨count, rfl⟩ : ∃ fewer, count = fewer + 1 := ⟨count - 1, by omega⟩
  rw [List.append_assoc]
  refine h.replace ?_ (source_writtenOut_head? name count after)
  have hslot := h.of_append
  induction count with
  | zero => exact hslot
  | succ count ih =>
      rw [writtenOut_succ]
      refine .cons ?_ (.cons ?_ (ih (by omega)))
      · cases hslot with
        | cons fits _ =>
            cases fits with
            | list starts goes_on => exact .list starts goes_on
      · exact .plain (by decide) fun hcomma => absurd hcomma (by decide)

/-- Widening the mark behind a text leaves what is before and behind it. -/
theorem expandHold_append (before after : List Char) (count : Nat) :
    expandHold (before ++ holdMark :: after) (Text.utf8Width before + 1) count =
      before ++ marks count ++ after := by
  rw [expandHold, Nat.add_sub_cancel, Text.splitAtByte_append]
  rfl

/-- Widening the mark of a slot is holding the slot written out. -/
theorem expandHold_slot {before after : List Item} {name : List Char}
    {mode : SlotMode} (count : Nat) :
    expandHold (heldText (before ++ .slot name mode :: after))
        (Text.utf8Width (heldText before) + 1) count =
      heldText (before ++ writtenOut name count ++ after) := by
  rw [heldText_append, heldText_append, heldText_append, heldText_writtenOut,
    heldText_cons]
  exact expandHold_append (heldText before) (heldText after) count

end Template

end NamedSql
