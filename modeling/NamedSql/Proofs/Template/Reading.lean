import NamedSql.Proofs.Fallible
import NamedSql.Proofs.Text.Cutting
import NamedSql.Template.Basic
import Mathlib.Data.List.TakeWhile

/-!
Reading templates and writing them out again. A template is readable if each
item is well formed and nothing behind an item is taken for a part of it. Every
text is such items up to where reading halts; so reading gives a readable
template with the text that was read, and every readable template is read back
from its text.
-/

namespace NamedSql.Template

/-- The written form of a template. -/
def source (template : List Item) : List Char :=
  template.flatMap Item.source

theorem source_append (left right : List Item) :
    source (left ++ right) = source left ++ source right :=
  List.flatMap_append

theorem source_cons (item : Item) (rest : List Item) :
    source (item :: rest) = item.source ++ source rest :=
  List.flatMap_cons

/-- The item is well formed, and is read as itself before `next`, the character
behind it if there is one. -/
inductive Item.Fits : Item → Option Char → Prop where
  | quoted {mark : Char} {body : List Char} {next : Option Char}
      (opens : isQuote mark = true) (inside : mark ∉ body) :
      Fits (.quoted mark body) next
  | cast {next : Option Char} : Fits .cast next
  | list {first : Char} {others : List Char} {next : Option Char}
      (starts : isNameStart first = true)
      (goes_on : ∀ c ∈ others, isNameChar c = true) :
      Fits (.slot (first :: others) .list) next
  | single {first : Char} {others : List Char} {next : Option Char}
      (starts : isNameStart first = true)
      (goes_on : ∀ c ∈ others, isNameChar c = true)
      (ends : ∀ c, next = some c → isNameChar c = false ∧ c ≠ '[') :
      Fits (.slot (first :: others) .single) next
  | plain {c : Char} {next : Option Char} (unquoted : isQuote c = false)
      (alone : c = ':' → ∀ d, next = some d → d ≠ ':' ∧ isNameStart d = false) :
      Fits (.plain c) next

/-- Every item fits before what is written behind it. -/
inductive Readable : List Item → Prop where
  | nil : Readable []
  | cons {item : Item} {rest : List Item} (fits : item.Fits (source rest).head?)
      (readable : Readable rest) : Readable (item :: rest)

/-- Every item fits before what is written behind it, `behind` standing behind
the last. -/
inductive ReadBefore (behind : List Char) : List Item → Prop where
  | nil : ReadBefore behind []
  | cons {item : Item} {rest : List Item}
      (fits : item.Fits (source rest ++ behind).head?)
      (read : ReadBefore behind rest) : ReadBefore behind (item :: rest)

theorem readBefore_nil_iff {template : List Item} :
    ReadBefore [] template ↔ Readable template := by
  constructor
  · intro h
    induction h with
    | nil => exact .nil
    | cons fits _ ih => exact .cons (by rwa [List.append_nil] at fits) ih
  · intro h
    induction h with
    | nil => exact .nil
    | cons fits _ ih => exact .cons (by rwa [List.append_nil]) ih

/-- Where no further item is read, and why if that is not the end. -/
inductive Halt : List Char → Option Malformation → Prop where
  | finished : Halt [] none
  | quote {mark : Char} {body : List Char} (opens : isQuote mark = true)
      (inside : mark ∉ body) :
      Halt (mark :: body) (some (.unterminatedQuote mark))
  | list {first : Char} {others tail : List Char}
      (starts : isNameStart first = true)
      (goes_on : ∀ c ∈ others, isNameChar c = true)
      (cut : tail.head? ≠ some ']') :
      Halt (':' :: first :: (others ++ '[' :: tail))
        (some (.unterminatedList (first :: others)))

/-- Whether the item fits, for templates that are given. -/
def Item.fits (next : Option Char) : Item → Bool
  | .quoted mark body => isQuote mark && !body.contains mark
  | .cast => true
  | .slot [] _ => false
  | .slot (first :: others) .list => isNameStart first && others.all isNameChar
  | .slot (first :: others) .single =>
      isNameStart first && others.all isNameChar && next.all fun c =>
        !isNameChar c && c != '['
  | .plain c =>
      !isQuote c && (c != ':' || next.all fun d => d != ':' && !isNameStart d)

theorem Item.fits_iff {item : Item} {next : Option Char} :
    item.fits next = true ↔ item.Fits next := by
  cases item with
  | quoted mark body =>
      have hfits : (Item.quoted mark body).fits next = true ↔
          isQuote mark = true ∧ mark ∉ body := by simp [fits]
      rw [hfits]
      exact ⟨fun ⟨opens, inside⟩ => .quoted opens inside,
        fun | .quoted opens inside => ⟨opens, inside⟩⟩
  | cast => exact ⟨fun _ => .cast, fun _ => rfl⟩
  | slot name mode =>
      cases name with
      | nil => exact ⟨nofun, nofun⟩
      | cons first others =>
          cases mode with
          | single =>
              have hfits :
                  (Item.slot (first :: others) .single).fits next = true ↔
                    isNameStart first = true ∧
                      (∀ c ∈ others, isNameChar c = true) ∧
                      ∀ c, next = some c → isNameChar c = false ∧ c ≠ '[' := by
                simp [fits, Option.all_eq_true, and_assoc]
              rw [hfits]
              exact ⟨fun ⟨starts, goes_on, ends⟩ => .single starts goes_on ends,
                fun | .single starts goes_on ends => ⟨starts, goes_on, ends⟩⟩
          | list =>
              have hfits :
                  (Item.slot (first :: others) .list).fits next = true ↔
                    isNameStart first = true ∧ ∀ c ∈ others,
                      isNameChar c = true := by
                simp [fits]
              rw [hfits]
              exact ⟨fun ⟨starts, goes_on⟩ => .list starts goes_on,
                fun | .list starts goes_on => ⟨starts, goes_on⟩⟩
  | plain c =>
      have hfits : (Item.plain c).fits next = true ↔ isQuote c = false ∧
          (c = ':' → ∀ d, next = some d → d ≠ ':' ∧ isNameStart d = false) := by
        by_cases hcolon : c = ':'
        · simp [fits, hcolon, Option.all_eq_true]
        · simp [fits, hcolon]
      rw [hfits]
      exact ⟨fun ⟨unquoted, alone⟩ => .plain unquoted alone,
        fun | .plain unquoted alone => ⟨unquoted, alone⟩⟩

instance Item.decidableFits (item : Item) (next : Option Char) :
    Decidable (item.Fits next) :=
  decidable_of_iff (item.fits next = true) fits_iff

instance decidableReadable :
    (template : List Item) → Decidable (Readable template)
  | [] => .isTrue .nil
  | item :: rest =>
      have := decidableReadable rest
      decidable_of_iff (item.Fits (source rest).head? ∧ Readable rest)
        ⟨fun ⟨fits, readable⟩ => .cons fits readable,
          fun | .cons fits readable => ⟨fits, readable⟩⟩

theorem head?_dropWhile_eq_false {p : Char → Bool} {text rest : List Char}
    {c : Char} (h : text.dropWhile p = c :: rest) : p c = false := by
  have hnot := List.head?_dropWhile_not p text
  rw [h] at hnot
  simpa using hnot

/-- Every text is a run of items with a halt behind it. -/
theorem exists_halt (text : List Char) : ∃ template rest fault,
    text = source template ++ rest ∧ ReadBefore rest template ∧
      Halt rest fault := by
  fun_induction items text with
  | case1 => exact ⟨[], [], none, rfl, .nil, .finished⟩
  | case2 c rest hquote hsplit =>
      exact ⟨[], c :: rest, _, rfl, .nil,
        .quote hquote (Text.splitFirst?_eq_none_iff.mp hsplit)⟩
  | case3 c rest hquote body after hsplit _ ih =>
      obtain ⟨template, halted, fault, rfl, hread, hhalt⟩ := ih
      obtain ⟨rfl, hinside⟩ := Text.eq_append_of_splitFirst? hsplit
      exact ⟨.quoted c body :: template, halted, fault,
        by simp [source_cons, Item.source],
        .cons (.quoted hquote hinside) hread, hhalt⟩
  | case4 hquote =>
      refine ⟨[.plain ':'], [], none, rfl,
        .cons (.plain (by simpa using hquote) ?_) .nil, .finished⟩
      rintro - d ⟨⟩
  | case5 after hquote ih =>
      obtain ⟨template, halted, fault, rfl, hread, hhalt⟩ := ih
      exact ⟨.cast :: template, halted, fault, rfl, .cons .cast hread, hhalt⟩
  | case6 d after hcolon hstart name _ tail hdrop _ hquote =>
      rename_i ih
      obtain ⟨template, halted, fault, rfl, hread, hhalt⟩ := ih
      refine ⟨.slot name .list :: template, halted, fault, ?_,
        .cons (.list hstart fun c => List.mem_takeWhile_imp) hread, hhalt⟩
      rw [← List.takeWhile_append_dropWhile (p := isNameChar) (l := after),
        hdrop]
      simp [source_cons, Item.source, name]
  | case7 d after hcolon hstart name _ tail hcut hdrop hquote =>
      refine ⟨[], ':' :: d :: after, some (.unterminatedList name), rfl,
        .nil, ?_⟩
      rw [← List.takeWhile_append_dropWhile (p := isNameChar) (l := after),
        hdrop]
      refine .list hstart (fun c => List.mem_takeWhile_imp) ?_
      intro hhead
      obtain ⟨behind, rfl⟩ := List.head?_eq_some_iff.mp hhead
      exact hcut behind rfl
  | case8 d after hcolon hstart name _ hquote hlist hopen _ =>
      rename_i ih
      obtain ⟨template, halted, fault, htail, hread, hhalt⟩ := ih
      refine ⟨.slot name .single :: template, halted, fault, ?_,
        .cons (.single hstart (fun c => List.mem_takeWhile_imp) ?_) hread,
        hhalt⟩
      · rw [source_cons, List.append_assoc, ← htail, Item.source,
          List.cons_append, List.cons_append, List.takeWhile_append_dropWhile]
      · intro c hc
        rw [← htail] at hc
        obtain ⟨tail, hdrop⟩ := List.head?_eq_some_iff.mp hc
        refine ⟨head?_dropWhile_eq_false hdrop, ?_⟩
        rintro rfl
        exact hopen tail hdrop
  | case9 d after hcolon hstart hquote ih =>
      obtain ⟨template, halted, fault, htext, hread, hhalt⟩ := ih
      refine ⟨.plain ':' :: template, halted, fault, by rw [htext]; rfl,
        .cons (.plain (by simpa using hquote) ?_) hread, hhalt⟩
      rintro - next hnext
      obtain rfl : d = next := by simpa [← htext] using hnext
      exact ⟨hcolon, by simpa using hstart⟩
  | case10 c after hquote hcolon ih =>
      obtain ⟨template, halted, fault, rfl, hread, hhalt⟩ := ih
      refine ⟨.plain c :: template, halted, fault, rfl,
        .cons (.plain (by simpa using hquote) ?_) hread, hhalt⟩
      intro hc
      exact absurd hc hcolon

theorem isQuote_colon : isQuote ':' = false := by decide

/-- A name ends where no name character follows. -/
theorem takeWhile_name {others after : List Char}
    (goes_on : ∀ c ∈ others, isNameChar c = true)
    (ends : ∀ c, after.head? = some c → isNameChar c = false) :
    (others ++ after).takeWhile isNameChar = others ∧
      (others ++ after).dropWhile isNameChar = after := by
  have htake :
      after.takeWhile isNameChar = [] ∧ after.dropWhile isNameChar = after := by
    cases after with
    | nil => exact ⟨rfl, rfl⟩
    | cons c rest => simp [ends c rfl]
  rw [List.takeWhile_append_of_pos goes_on,
    List.dropWhile_append_of_pos goes_on, htake.1, htake.2, List.append_nil]
  exact ⟨rfl, rfl⟩

theorem ne_colon_of_isNameStart {c : Char} (h : isNameStart c = true) :
    c ≠ ':' := by
  rintro rfl
  exact absurd h (by decide)

/-- An item that fits before a text is read first, and then the text. -/
theorem items_source_append {item : Item} {text : List Char}
    (h : item.Fits text.head?) :
    items (item.source ++ text) = (item :: ·) <$> items text := by
  cases h with
  | @quoted mark body _ opens inside =>
      have hsplit := Text.splitFirst?_append text inside
      rw [Item.source, List.append_assoc, List.cons_append,
        List.singleton_append, items.eq_def]
      simp only [opens, if_true]
      split
      · next hnone => simp [hsplit] at hnone
      · next found after hfound =>
          obtain ⟨rfl, rfl⟩ : found = body ∧ after = text := by
            simpa [hsplit, eq_comm] using hfound
          rfl
  | cast =>
      rw [Item.source, List.cons_append, List.cons_append, List.nil_append,
        items.eq_def]
      simp [isQuote_colon]
  | @list first others _ starts goes_on =>
      have hends :
          ∀ c, ('[' :: ']' :: text).head? = some c → isNameChar c = false := by
        rintro c ⟨⟩
        decide
      obtain ⟨htake, hdrop⟩ := takeWhile_name goes_on hends
      have htext : (Item.slot (first :: others) .list).source ++ text =
          ':' :: first :: (others ++ '[' :: ']' :: text) := by
            simp [Item.source]
      rw [htext, items.eq_def]
      simp only [isQuote_colon, Bool.false_eq_true, if_false, if_true,
        if_neg (ne_colon_of_isNameStart starts), if_pos starts, htake]
      split
      · next tail htail =>
          obtain rfl : text = tail := by simpa [hdrop] using htail
          rfl
      · next hlist htail =>
          exact absurd (by simpa [hdrop, eq_comm] using htail) (hlist text)
      · next hlist _ => exact absurd hdrop (hlist text)
  | @single first others _ starts goes_on ends =>
      obtain ⟨htake, hdrop⟩ := takeWhile_name goes_on fun c hc => (ends c hc).1
      have htext : (Item.slot (first :: others) .single).source ++ text =
          ':' :: first :: (others ++ text) := by simp [Item.source]
      rw [htext, items.eq_def]
      simp only [isQuote_colon, Bool.false_eq_true, if_false, if_true,
        if_neg (ne_colon_of_isNameStart starts), if_pos starts, htake]
      split
      · next tail htail =>
          rw [hdrop] at htail
          exact absurd rfl (ends '[' (by rw [htail]; rfl)).2
      · next tail _ htail =>
          rw [hdrop] at htail
          exact absurd rfl (ends '[' (by rw [htail]; rfl)).2
      · rw [hdrop]
  | @plain c _ unquoted alone =>
      rw [Item.source, List.singleton_append, items.eq_def]
      simp only [unquoted, Bool.false_eq_true, if_false]
      split
      · next hcolon =>
          subst hcolon
          cases text with
          | nil =>
              rw [items]
              rfl
          | cons d rest =>
              obtain ⟨hd, hstart⟩ := alone rfl d rfl
              simp [hd, hstart]
      · rfl

/-- Items are read from the front of a text, and then what is behind them. -/
theorem ReadBefore.items_append {behind : List Char} {template : List Item}
    (h : ReadBefore behind template) :
    items (source template ++ behind) = (template ++ ·) <$> items behind := by
  induction h with
  | nil =>
      rw [source, List.flatMap_nil, List.nil_append]
      exact (id_map _).symm
  | cons fits _ ih =>
      rw [source_cons, List.append_assoc, items_source_append fits, ih,
        ← comp_map]
      rfl

/-- A readable template is read back from its text. -/
theorem items_of_readable {template : List Item} (h : Readable template) :
    items (source template) = .ok template := by
  have hread := (readBefore_nil_iff.mpr h).items_append
  rw [List.append_nil, items] at hread
  rw [hread]
  exact congrArg Except.ok (List.append_nil template)

theorem Halt.items_eq {halted : List Char} {fault : Option Malformation}
    (h : Halt halted fault) :
    items halted = match fault with
      | none => .ok []
      | some cause => .error cause := by
  cases h with
  | finished => rw [items]
  | quote opens inside =>
      rw [items.eq_def]
      simp only [opens, if_true]
      split
      · rfl
      · next hfound => simp [Text.splitFirst?_eq_none_iff.mpr inside] at hfound
  | list starts goes_on cut =>
      rename_i first others tail
      have hends :
          ∀ c, ('[' :: tail).head? = some c → isNameChar c = false := by
        rintro c ⟨⟩
        decide
      obtain ⟨htake, hdrop⟩ := takeWhile_name goes_on hends
      rw [items.eq_def]
      simp only [isQuote_colon, Bool.false_eq_true, if_false, if_true,
        if_neg (ne_colon_of_isNameStart starts), if_pos starts, htake]
      split
      · next behind hfound =>
          rw [hdrop] at hfound
          obtain ⟨-, rfl⟩ := List.cons.inj hfound
          exact absurd rfl cut
      · rfl
      · next hnone => exact absurd hdrop (hnone tail)

/-- What is read is readable, and nothing of the text is lost. -/
theorem readable_of_items {text : List Char} {template : List Item}
    (h : items text = .ok template) :
    source template = text ∧ Readable template := by
  obtain ⟨found, halted, fault, rfl, hread, hhalt⟩ := exists_halt text
  rw [hread.items_append, hhalt.items_eq] at h
  cases hhalt with
  | finished =>
      obtain rfl : found = template := by simpa using Except.ok.inj h
      exact ⟨(List.append_nil _).symm, readBefore_nil_iff.mp hread⟩
  | quote | list => cases h

theorem items_eq_ok_iff {text : List Char} {template : List Item} :
    items text = .ok template ↔ source template = text ∧ Readable template := by
  constructor
  · exact readable_of_items
  · rintro ⟨rfl, hreadable⟩
    exact items_of_readable hreadable

end NamedSql.Template
