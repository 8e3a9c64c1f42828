import NamedSql.Text.Split
import NamedSql.Text.Utf8

/-!
Statement templates. A template is a sequence of items: quoted runs, casts,
named slots for one value (`:name`) or for a list of values (`:name[]`), and
single characters. Reading a template finds its items; its held text shows a
hold mark where each slot stands.
-/

namespace NamedSql

/-- Whether a slot takes one value or a list of them. -/
inductive SlotMode where
  | single
  | list
deriving DecidableEq, Repr

/-- A slot of a held text: `position` counts bytes and is that of the slot's
hold mark, the first byte being 1. -/
structure Column where
  name : String
  position : Nat
  mode : SlotMode
deriving DecidableEq, Repr

namespace Column

def takesList (column : Column) : Bool :=
  column.mode == .list

end Column

namespace Template

def holdMark : Char := '?'

def isQuote (c : Char) : Bool :=
  c == '\'' || c == '"' || c == '\x60'

def isNameStart (c : Char) : Bool :=
  c.isAlpha || c == '_'

def isNameChar (c : Char) : Bool :=
  c.isAlphanum || c == '_' || c == '.'

inductive Item where
  | quoted (mark : Char) (body : List Char)
  | cast
  | slot (name : List Char) (mode : SlotMode)
  | plain (c : Char)
deriving DecidableEq, Repr

inductive Malformation where
  | unterminatedQuote (mark : Char)
  | unterminatedList (name : List Char)
deriving DecidableEq, Repr

def Malformation.message : Malformation → String
  | .unterminatedQuote mark => "unterminated quote " ++ String.ofList [mark]
  | .unterminatedList name =>
      "unterminated array placeholder :" ++ String.ofList name ++ "["

/-- The written form of an item. -/
def Item.source : Item → List Char
  | .quoted mark body => mark :: body ++ [mark]
  | .cast => [':', ':']
  | .slot name .single => ':' :: name
  | .slot name .list => ':' :: name ++ ['[', ']']
  | .plain c => [c]

/-- The form of an item in a held text. -/
def Item.held : Item → List Char
  | .quoted mark body => mark :: body ++ [mark]
  | .cast => [':', ':']
  | .slot _ _ => [holdMark]
  | .plain c => [c]

theorem length_dropWhile_le (p : Char → Bool) (text : List Char) :
    (text.dropWhile p).length ≤ text.length :=
  (List.dropWhile_sublist p).length_le

/-- The items of a template, from left to right. A quote opens a run up to the
next such quote; a colon opens a cast or a slot, or stands for itself. -/
def items : List Char → Except Malformation (List Item)
  | [] => .ok []
  | c :: rest =>
      if isQuote c then
        match h : Text.splitFirst? c rest with
        | none => .error (.unterminatedQuote c)
        | some (body, after) =>
            have := Text.length_of_splitFirst? h
            (Item.quoted c body :: ·) <$> items after
      else if c = ':' then
        match rest with
        | [] => .ok [.plain ':']
        | d :: after =>
            if d = ':' then (Item.cast :: ·) <$> items after
            else if isNameStart d then
              let name := d :: after.takeWhile isNameChar
              have hle := length_dropWhile_le isNameChar after
              match h : after.dropWhile isNameChar with
              | '[' :: ']' :: tail =>
                  have : tail.length + 2 ≤ after.length := by
                    rw [h] at hle
                    exact hle
                  (Item.slot name .list :: ·) <$> items tail
              | '[' :: _ => .error (.unterminatedList name)
              | tail =>
                  have : tail.length ≤ after.length := h ▸ hle
                  (Item.slot name .single :: ·) <$> items tail
            else (Item.plain ':' :: ·) <$> items (d :: after)
      else (Item.plain c :: ·) <$> items rest
termination_by text => text.length

/-- The held text of a template. -/
def heldText (template : List Item) : List Char :=
  template.flatMap Item.held

/-- The slots of a template in order, `offset` being the bytes of held text
before it. -/
def columnsFrom (offset : Nat) : List Item → List Column
  | [] => []
  | item :: rest =>
      let next := offset + Text.utf8Width item.held
      match item with
      | .slot name mode =>
          ⟨String.ofList name, offset + 1, mode⟩ :: columnsFrom next rest
      | _ => columnsFrom next rest

def columns (template : List Item) : List Column :=
  columnsFrom 0 template

/-- The held text with `count` marks, parted by commas, in place of the mark at
`position`. -/
def expandHold (held : List Char) (position count : Nat) : List Char :=
  let (before, after) := Text.splitAtByte (position - 1) held
  before ++ (List.replicate count holdMark).intersperse ',' ++ after.drop 1

end Template

end NamedSql
