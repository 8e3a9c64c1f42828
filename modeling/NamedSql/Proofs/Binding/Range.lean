import NamedSql.Binding
import NamedSql.Proofs.Statement.Splicing
import NamedSql.Proofs.Template.Native

/-!
Binding stays in range. It looks parameters up by index and cuts the held text
at a byte that another step has recorded; both could be out of range. The
columns of every statement that can be come by stand at marks of its held text,
outside quotes and one behind the other. So a binder that gives up at the first
place that is not there never gives up.
-/

namespace NamedSql

namespace Text

/-- Cuts a text behind `count` bytes. There is no cut inside a character or
behind the end. -/
def cutAtByte? : Nat → List Char → Option (List Char × List Char)
  | 0, text => some ([], text)
  | _ + 1, [] => none
  | count + 1, c :: rest =>
      if c.utf8Size ≤ count + 1 then
        (cutAtByte? (count + 1 - c.utf8Size) rest).map fun (before, after) =>
          (c :: before, after)
      else none

theorem cutAtByte?_append (left right : List Char) :
    cutAtByte? (utf8Width left) (left ++ right) = some (left, right) := by
  induction left with
  | nil => cases right <;> rfl
  | cons c rest ih =>
      obtain ⟨bytes, hbytes⟩ :=
        Nat.exists_eq_add_one_of_ne_zero c.utf8Size_pos.ne'
      have hcount : utf8Width (c :: rest) = bytes + utf8Width rest + 1 := by
        rw [utf8Width, hbytes]
        omega
      have hrest :
          bytes + utf8Width rest + 1 - c.utf8Size = utf8Width rest := by omega
      rw [List.cons_append, hcount, cutAtByte?, if_pos (by omega), hrest, ih]
      rfl

end Text

/-- The column stands at a mark of the held text that is outside quotes. -/
def Column.StandsIn (column : Column) (held : List Char) : Prop :=
  ∃ before after, held = before ++ Template.holdMark :: after ∧
    column.position = Text.utf8Width before + 1 ∧
    Template.openAfter none before = none

namespace Template

/-- Widening a mark where the text can be cut before it and behind it, and not
elsewhere. -/
def expandHold? (held : List Char) (position count : Nat) :
    Option (List Char) :=
  if position = 0 then none
  else do
    let (before, _) ← Text.cutAtByte? (position - 1) held
    let (_, after) ← Text.cutAtByte? position held
    return before ++ marks count ++ after

theorem expandHold?_of_standsIn {held : List Char} {column : Column}
    (h : column.StandsIn held) (count : Nat) :
    expandHold? held column.position count =
      some (expandHold held column.position count) := by
  obtain ⟨before, after, rfl, hposition, -⟩ := h
  have hbehind :
      Text.cutAtByte? (Text.utf8Width before + 1)
        (before ++ holdMark :: after) =
        some (before ++ [holdMark], after) := by
    have hcut := Text.cutAtByte?_append (before ++ [holdMark]) after
    rw [Text.utf8Width_append, List.append_assoc] at hcut
    exact hcut
  rw [hposition, expandHold_append, expandHold?, if_neg (by omega),
    Nat.add_sub_cancel, Text.cutAtByte?_append, hbehind]
  rfl

/-- What is read leaves no quote open in its held text. -/
theorem Readable.openAfter_heldText {left right : List Item}
    (h : Readable (left ++ right)) : openAfter none (heldText left) = none := by
  induction left with
  | nil => rfl
  | cons item rest ih =>
      cases h with
      | cons fits readable =>
          rw [heldText_cons, openAfter_append, fits.openAfter_held, ih readable]

theorem standsIn_of_mem_columns {template : List Item} (h : Readable template) :
    ∀ column ∈ columns template, column.StandsIn (heldText template) := by
  intro column hmem
  obtain ⟨index, hindex⟩ := List.mem_iff_getElem?.mp hmem
  obtain ⟨before, name, after, rfl, -, -, hposition⟩ := slot_of_columns hindex
  refine ⟨heldText before, heldText after, ?_, hposition, h.openAfter_heldText⟩
  rw [heldText_append, heldText_cons]
  rfl

theorem lt_position_of_mem_columnsFrom {offset : Nat} {template : List Item}
    {column : Column} (h : column ∈ columnsFrom offset template) :
    offset < column.position := by
  rw [columnsFrom_eq_map, List.mem_map] at h
  obtain ⟨found, hmem, rfl⟩ := h
  obtain ⟨index, hindex⟩ := List.mem_iff_getElem?.mp hmem
  obtain ⟨before, name, after, -, -, -, hposition⟩ := slot_of_columns hindex
  change offset < offset + found.position
  omega

theorem columnsFrom_increase (offset : Nat) (template : List Item) :
    (columnsFrom offset template).Pairwise (·.position < ·.position) := by
  induction template generalizing offset with
  | nil => exact .nil
  | cons item rest ih =>
      rcases em item.IsSlot with ⟨name, mode, rfl⟩ | htext
      · refine .cons (fun column hmem => ?_) (ih _)
        exact lt_position_of_mem_columnsFrom hmem
      · rw [columnsFrom_cons htext]
        exact ih _

end Template

/-- An outcome that may fail, or be missing because a place was used that is not
there. -/
abbrev Guarded := ExceptT Cause Option

namespace Guarded

variable {α β : Type}

def settle (outcome : Except Cause α) : Guarded α :=
  ExceptT.mk (some outcome)

def access (found : Option α) : Guarded α :=
  ExceptT.mk (found.map .ok)

theorem settle_bind (outcome : Except Cause α) (f : α → Except Cause β) :
    (settle outcome >>= fun value => settle (f value)) =
      settle (outcome >>= f) := by
  cases outcome <;> rfl

theorem access_bind (value : α) (f : α → Guarded β) :
    (access (some value) >>= f) = f value :=
  rfl

end Guarded

namespace Statement

open Guarded

variable {dialect : Dialect} {s : Statement}

/-- Binds columns as `bindColumns` does, and is missing where the lookup or the
widening of a text uses a place that is not there. -/
def bindColumns? (dialect : Dialect) (s : Statement)
    (lookup : Nat → Column → Guarded Param) : Guarded Binding :=
  go 0 s.columns [] none
where
  go (index : Nat) : List Column → List Value → Option String → Guarded Binding
    | [], arguments, widened =>
        settle (.ok ⟨widened.getD s.resolved, arguments⟩)
    | column :: rest, arguments, widened => do
        let p ← lookup index column
        if column.takesList then
          let values ← settle (p.toScalars column.name)
          if values.length > 1 then
            if widened.isSome then settle (.error (.bind .severalLists))
            else
              let held ←
                access (Template.expandHold? s.held.toList column.position
                  values.length)
              go (index + 1) rest (arguments ++ values)
                (some (String.ofList (dialect.render held)))
          else go (index + 1) rest (arguments ++ values) widened
        else
          let value ← settle (p.toScalar column.name)
          go (index + 1) rest (arguments ++ [value]) widened

def bindPositional? (dialect : Dialect) (s : Statement) (values : List Param) :
    Guarded Binding :=
  if values.length < s.columns.length then
    settle (.error (.bind (.countMismatch s.columns.length values.length)))
  else if s.hasList then
    s.bindColumns? dialect fun index _ => access values[index]?
  else do
    let arguments ← settle (s.scalarsFrom 0 values)
    settle (.ok ⟨s.resolved, arguments⟩)

def bindNamed? (dialect : Dialect) (s : Statement) (values : NamedParams) :
    Guarded Binding :=
  s.bindColumns? dialect fun _ column => settle (lookupNamed values column)

theorem go?_eq_settle {lookup : Nat → Column → Except Cause Param}
    {lookup? : Nat → Column → Guarded Param} {columns : List Column}
    {index : Nat} (hlookup : ∀ place column, place < index + columns.length →
      lookup? place column = settle (lookup place column))
    (hstands : ∀ column ∈ columns, column.StandsIn s.held.toList)
    (arguments : List Value) (widened : Option String) :
    bindColumns?.go dialect s lookup? index columns arguments widened =
      settle
        (bindColumns.go dialect s lookup index columns arguments widened) := by
  induction columns generalizing index arguments widened with
  | nil => rfl
  | cons column rest ih =>
      obtain ⟨hcolumn, hrest⟩ := List.forall_mem_cons.mp hstands
      have hbehind : ∀ arguments widened,
          bindColumns?.go dialect s lookup? (index + 1) rest arguments widened =
            settle (bindColumns.go dialect s lookup (index + 1) rest arguments
              widened) := by
        refine ih (fun place column hplace => hlookup place column ?_) hrest
        rw [List.length_cons]
        omega
      rw [bindColumns?.go, bindColumns.go, hlookup index column (by simp),
        ← settle_bind]
      refine bind_congr fun p => ?_
      split
      · rw [← settle_bind]
        refine bind_congr fun values => ?_
        split
        · split
          · rfl
          · rw [Template.expandHold?_of_standsIn hcolumn, access_bind, hbehind]
        · exact hbehind _ _
      · rw [← settle_bind]
        exact bind_congr fun value => hbehind _ _

/-- Statements as they can be come by: built from a declaration, written in
place of an id, or refined. -/
inductive Produced : Statement → Prop where
  | declared {dialect : Dialect} {used : Nat} {d : Declaration} {s : Statement}
      (built : (d.build dialect used).1 = .ok s) : Produced s
  | adHoc {dialect : Dialect} {sql : String} {s : Statement}
      (built : ofSql dialect sql = .ok s) : Produced s
  | refined {dialect : Dialect} {presence : Presence} {s refined : Statement}
      (refines : s.refine dialect presence = .ok refined) : Produced refined

/-- The columns stand at marks of the held text, each behind the one before. -/
structure Placed (s : Statement) : Prop where
  increase : s.columns.Pairwise (·.position < ·.position)
  stand : ∀ column ∈ s.columns, column.StandsIn s.held.toList

theorem placed_of_normalize {normal : Statement}
    (h : s.normalize dialect = .ok normal) : normal.Placed := by
  obtain ⟨template, htemplate, rfl⟩ := normalize_eq_ok_iff.mp h
  obtain ⟨-, hreadable⟩ := Template.items_eq_ok_iff.mp htemplate
  refine ⟨Template.columnsFrom_increase 0 template, ?_⟩
  rw [String.toList_ofList]
  exact Template.standsIn_of_mem_columns hreadable

theorem Produced.placed (h : Produced s) : s.Placed := by
  cases h with
  | adHoc built => exact placed_of_normalize built
  | refined refines => exact placed_of_normalize refines
  | declared built =>
      have hsql := (Declaration.build_eq_ok_iff.mp ⟨s, built⟩).1
      rw [Declaration.build_of_isSql hsql] at built
      split at built
      · -- a statement with clauses has no columns before it is refined
        obtain ⟨_, -, built⟩ := Fallible.bind_eq_ok_iff.mp built
        obtain ⟨_, -, built⟩ := Fallible.bind_eq_ok_iff.mp built
        obtain rfl := Except.ok.inj built
        exact ⟨.nil, List.forall_mem_nil _⟩
      · exact placed_of_normalize built

/-- Binding never uses a place that is not there, neither among the parameters
nor in the text: the columns stand, one behind the other, at marks of the held
text outside quotes. -/
theorem binding_stays_in_range (h : Produced s) :
    s.columns.Pairwise (·.position < ·.position) ∧
    (∀ column ∈ s.columns,
      1 ≤ column.position ∧ column.position ≤ s.held.utf8ByteSize ∧
      ∃ before after, s.held.toList = before ++ Template.holdMark :: after ∧
        column.position = (String.ofList before).utf8ByteSize + 1 ∧
        Template.openAfter none before = none) ∧
    ∀ dialect : Dialect,
      (∀ values : List Param,
        s.bindPositional? dialect values =
          settle (s.bindPositional dialect values)) ∧
      ∀ values : NamedParams,
        s.bindNamed? dialect values = settle (s.bindNamed dialect values) := by
  obtain ⟨hincrease, hstand⟩ := h.placed
  refine ⟨hincrease, fun column hmem => ?_,
    fun dialect => ⟨fun values => ?_, fun values => ?_⟩⟩
  · obtain ⟨before, after, hheld, hposition, hopen⟩ := hstand column hmem
    have hbytes : s.held.utf8ByteSize = Text.utf8Width s.held.toList := by
      rw [← Text.utf8ByteSize_ofList, String.ofList_toList]
    have hwidth : Text.utf8Width before + 1 ≤ Text.utf8Width s.held.toList := by
      rw [hheld, Text.utf8Width_append, Text.utf8Width]
      have hmark := Template.holdMark.utf8Size_pos
      omega
    refine ⟨by omega, by omega, before, after, hheld, ?_, hopen⟩
    rw [Text.utf8ByteSize_ofList, hposition]
  · rw [bindPositional?, bindPositional]
    split
    · rfl
    · next henough =>
        split
        · refine go?_eq_settle (fun place column hplace => ?_) hstand [] none
          obtain ⟨p, hp⟩ : ∃ p, values[place]? = some p :=
            ⟨_, List.getElem?_eq_getElem (by omega)⟩
          simp only [hp]
          rfl
        · exact settle_bind _ _
  · exact go?_eq_settle (fun _ _ _ => rfl) hstand [] none

/-- The list stands in a fragment, behind characters of two bytes and a quoted
mark. -/
theorem binding_stays_in_range_behind_multibyte_text :
    let s : Statement := .raw "q" .select "é '?' = :k\x001\x00"
      [⟨clauseToken 1, "i", " or é in (:i[])", .present⟩]
    let refined : Statement := { s with
      text := "é '?' = :k or é in (:i[])"
      columns := [⟨"k", 10, .single⟩, ⟨"i", 22, .list⟩]
      held := "é '?' = ? or é in (?)"
      resolved := "é '?' = $1 or é in ($2)" }
    let list : Param := .sequence [.scalar (.int 1), .scalar (.int 2)]
    s.refine .dollar (some ["i"]) = .ok refined ∧
      refined.columns.Pairwise (·.position < ·.position) ∧
      refined.bindPositional? .dollar [.scalar .null, list] =
        settle
          (.ok ⟨"é '?' = $1 or é in ($2,$3)", [.null, .int 1, .int 2]⟩) := by
  intro s refined list
  have hitems : Template.items (s.splice (keeps (some ["i"]))).text.toList =
      .ok (.plain 'é' :: .plain ' ' :: .quoted '\'' ['?'] :: .plain ' ' ::
        .plain '=' :: .plain ' ' :: .slot ['k'] .single ::
        (" or é in (".toList.map .plain ++
          [.slot ['i'] .list, .plain ')'])) :=
    Template.items_eq_ok_iff.mpr ⟨by decide, by decide⟩
  have hrefine : s.refine .dollar (some ["i"]) = .ok refined :=
    normalize_eq_ok_iff.mpr ⟨_, hitems, by decide⟩
  obtain ⟨hincrease, -, hbind⟩ := binding_stays_in_range (.refined hrefine)
  refine ⟨hrefine, hincrease, ((hbind .dollar).1 _).trans (congrArg settle ?_)⟩
  decide

end Statement

end NamedSql
