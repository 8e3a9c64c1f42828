import Mathlib.Data.List.DropRight
import NamedSql.Naming

/-!
Names in snake case are stable. The conversion of an ASCII name consists of
words of small letters and digits with one underscore between two of them, and
such a name is converted to itself.
-/

namespace NamedSql.Naming

/-- What the words of a field name are made of. -/
def isWordChar (c : Char) : Bool :=
  c.isLower || c.isDigit

/-- What holds of the characters with the first 128 codes holds of every ASCII
character. -/
theorem forall_ascii {P : Char → Prop} (h : ∀ code < 128, P (Char.ofNat code))
    {c : Char} (hascii : Text.isAscii c = true) : P c := by
  have hcode : c.toNat < 128 := of_decide_eq_true hascii
  simpa only [Char.ofNat_toNat] using h c.toNat hcode

theorem isAscii_of_isWordChar {c : Char} (h : isWordChar c = true) :
    Text.isAscii c = true := by
  have hle : c.toNat ≤ 'z'.toNat := by
    rcases Bool.or_eq_true_iff.mp h with hlower | hdigit
    · exact UInt32.le_iff_toNat_le.mp
        (of_decide_eq_true (Bool.and_eq_true_iff.mp hlower).2)
    · have hnine : c.toNat ≤ '9'.toNat :=
        UInt32.le_iff_toNat_le.mp
          (of_decide_eq_true (Bool.and_eq_true_iff.mp hdigit).2)
      exact hnine.trans (by decide)
  exact decide_eq_true (Nat.lt_of_le_of_lt hle (by decide))

theorem isAlphanumeric_of_isWordChar {c : Char} (h : isWordChar c = true) :
    Text.isAlphanumeric c = true := by
  have halpha : c.isAlpha = (c.isUpper || c.isLower) := rfl
  rw [Text.isAlphanumeric, if_pos (isAscii_of_isWordChar h),
    Char.isAlphanum, halpha]
  rcases Bool.or_eq_true_iff.mp h with hlower | hdigit
  · rw [hlower, Bool.or_true, Bool.true_or]
  · rw [hdigit, Bool.or_true]

theorem isUpper_of_isWordChar {c : Char} (h : isWordChar c = true) :
    Text.isUpper c = false :=
  forall_ascii (P := fun c => isWordChar c = true → Text.isUpper c = false)
    (by decide +kernel) (isAscii_of_isWordChar h) h

theorem lowerCase_of_isWordChar {c : Char} (h : isWordChar c = true) :
    Text.lowerCase c = [c] :=
  forall_ascii (P := fun c => isWordChar c = true → Text.lowerCase c = [c])
    (by decide +kernel) (isAscii_of_isWordChar h) h

theorem exists_lowerCase_of_isAscii {c : Char} (hascii : Text.isAscii c = true)
    (h : Text.isAlphanumeric c = true) :
    ∃ d, Text.lowerCase c = [d] ∧ isWordChar d = true := by
  have hlower : Text.lowerCase c = [c.toLower] := by
    rw [Text.lowerCase, if_pos hascii]
  have hword := forall_ascii
    (P := fun c => Text.isAlphanumeric c = true → isWordChar c.toLower = true)
    (by decide +kernel) hascii h
  exact ⟨c.toLower, hlower, hword⟩

/-- What may follow in a field name. An underscore may come first only if
`separable`, that is, behind a word, and a word has to come between two of
them. -/
inductive Tidy : Bool → List Char → Prop
  | nil {separable : Bool} : Tidy separable []
  | letter {separable : Bool} {c : Char} {rest : List Char}
      (hc : isWordChar c = true) (hrest : Tidy true rest) :
      Tidy separable (c :: rest)
  | underscore {rest : List Char} (hrest : Tidy false rest) :
      Tidy true ('_' :: rest)

variable {separable : Bool} {text : List Char}

theorem snakeFrom_cons_underscore (previous : Option Char) (separable : Bool)
    (rest : List Char) :
    snakeFrom previous separable ('_' :: rest) =
      (if separable then ['_'] else []) ++ snakeFrom (some '_') false rest := by
  have hmark : Text.isAlphanumeric '_' = false := by decide
  rw [snakeFrom, hmark]
  rfl

theorem snakeFrom_cons_wordChar (previous : Option Char) (separable : Bool)
    {c : Char} (hc : isWordChar c = true) (rest : List Char) :
    snakeFrom previous separable (c :: rest) =
      c :: snakeFrom (some c) true rest := by
  have hstart : startsWord previous c rest.head? = false := by
    simp only [startsWord, isUpper_of_isWordChar hc, Bool.false_and]
  rw [snakeFrom, if_pos (isAlphanumeric_of_isWordChar hc), hstart,
    lowerCase_of_isWordChar hc, Bool.and_false]
  rfl

/-- The conversion writes an underscore behind a word only, whatever the letters
suggest. -/
theorem tidy_snakeFrom (previous : Option Char) (separable : Bool)
    {column : List Char} (hascii : ∀ c ∈ column, Text.isAscii c = true) :
    Tidy separable (snakeFrom previous separable column) := by
  induction column generalizing previous separable with
  | nil => exact .nil
  | cons c rest ih =>
      obtain ⟨hc, hrest⟩ := List.forall_mem_cons.mp hascii
      rw [snakeFrom]
      split
      · next halpha =>
        obtain ⟨d, hlower, hd⟩ := exists_lowerCase_of_isAscii hc halpha
        have htail :
            ∀ {separable}, Tidy separable (d :: snakeFrom (some c) true rest) :=
          .letter hd (ih (some c) true hrest)
        rw [hlower]
        split
        · next hstart =>
          obtain rfl : separable = true := (Bool.and_eq_true_iff.mp hstart).1
          exact .underscore htail
        · exact htail
      · cases separable with
        | true => exact .underscore (ih (some c) false hrest)
        | false => exact ih (some c) false hrest

/-- Nothing of a tidy text starts a new word. -/
theorem Tidy.snakeFrom_eq (h : Tidy separable text) (previous : Option Char) :
    snakeFrom previous separable text = text := by
  induction h generalizing previous with
  | nil => rfl
  | letter hc hrest ih => rw [snakeFrom_cons_wordChar _ _ hc, ih]
  | underscore hrest ih => rw [snakeFrom_cons_underscore, ih]; rfl

theorem Tidy.of_append {front back : List Char}
    (h : Tidy separable (front ++ back)) : Tidy separable front := by
  induction front generalizing separable with
  | nil => exact .nil
  | cons c front ih =>
      cases h with
      | letter hc hrest => exact .letter hc (ih hrest)
      | underscore hrest => exact .underscore (ih hrest)

/-- Nonempty groups of small letters and digits. -/
def AreWords (words : List (List Char)) : Prop :=
  ∀ word ∈ words, word ≠ [] ∧ ∀ c ∈ word, isWordChar c = true

theorem intercalate_cons (first : List Char) (words : List (List Char)) :
    ['_'].intercalate (first :: words) = first ++ words.flatMap ('_' :: ·) := by
  induction words generalizing first with
  | nil => simp
  | cons word rest ih =>
      rw [List.intercalate_cons_cons, ih, List.flatMap_cons, List.append_assoc]
      rfl

/-- Unless it ends in an underscore, a tidy text goes on with the word that it
stands in and further words, each behind an underscore. -/
theorem Tidy.exists_words (h : Tidy separable text)
    (hlast : text.getLast? ≠ some '_') :
    ∃ first words, (∀ c ∈ first, isWordChar c = true) ∧ AreWords words ∧
      text = first ++ words.flatMap ('_' :: ·) ∧
      (separable = false → first = [] → words = []) := by
  induction h with
  | nil => exact ⟨[], [], nofun, nofun, rfl, fun _ _ => rfl⟩
  | @letter _ c rest hc _ ih =>
      have hrest : rest.getLast? ≠ some '_' := fun hmark => hlast (by
        rw [List.getLast?_cons, hmark]
        rfl)
      obtain ⟨first, words, hfirst, hwords, rfl, -⟩ := ih hrest
      exact ⟨c :: first, words, List.forall_mem_cons.mpr ⟨hc, hfirst⟩, hwords,
        rfl, nofun⟩
  | @underscore rest _ ih =>
      have hrest : rest.getLast? ≠ some '_' := fun hmark => hlast (by
        rw [List.getLast?_cons, hmark]
        rfl)
      obtain ⟨first, words, hfirst, hwords, htext, hempty⟩ := ih hrest
      have hne : first ≠ [] := by
        intro hnil
        rw [htext, hnil, hempty rfl hnil] at hlast
        exact hlast rfl
      exact ⟨[], first :: words, nofun,
        List.forall_mem_cons.mpr ⟨⟨hne, hfirst⟩, hwords⟩,
        by rw [htext]; rfl, nofun⟩

theorem Tidy.exists_intercalate (h : Tidy false text)
    (hlast : text.getLast? ≠ some '_') :
    ∃ words, AreWords words ∧ text = ['_'].intercalate words := by
  obtain ⟨first, words, hfirst, hwords, htext, hempty⟩ := h.exists_words hlast
  cases first with
  | nil =>
      obtain rfl := hempty rfl rfl
      exact ⟨[], nofun, htext⟩
  | cons c first =>
      refine ⟨(c :: first) :: words, ?_,
        htext.trans (intercalate_cons _ _).symm⟩
      exact List.forall_mem_cons.mpr
        ⟨⟨List.cons_ne_nil c first, hfirst⟩, hwords⟩

theorem toSnake_eq_rdropWhile (column : List Char) :
    toSnake column = (snakeFrom none false column).rdropWhile (· == '_') :=
  rfl

theorem rdropWhile_eq_self_iff {text : List Char} :
    text.rdropWhile (· == '_') = text ↔ text.getLast? ≠ some '_' := by
  rw [List.rdropWhile_eq_self_iff]
  cases text with
  | nil => simp
  | cons c rest => simp [List.getLast?_eq_some_getLast]

theorem getLast?_toSnake (column : List Char) :
    (toSnake column).getLast? ≠ some '_' :=
  rdropWhile_eq_self_iff.mp (List.rdropWhile_idempotent _ _)

theorem tidy_toSnake {column : List Char}
    (hascii : ∀ c ∈ column, Text.isAscii c = true) :
    Tidy false (toSnake column) := by
  have htidy := tidy_snakeFrom none false hascii
  rw [toSnake_eq_rdropWhile]
  obtain ⟨marks, hmarks⟩ :=
    List.rdropWhile_prefix (· == '_') (l := snakeFrom none false column)
  rw [← hmarks] at htidy
  exact htidy.of_append

/-- A tidy text that ends in a word is the form of itself. -/
theorem Tidy.toSnake_eq (h : Tidy false text)
    (hlast : text.getLast? ≠ some '_') : toSnake text = text := by
  rw [toSnake_eq_rdropWhile, h.snakeFrom_eq, rdropWhile_eq_self_iff.mpr hlast]

/-- Converted names are stable. The snake case of an ASCII name is made of
nonempty words of small letters and digits, joined by single underscores, and
converting it again changes nothing. -/
theorem fieldName_stable (column : String)
    (hascii : ∀ c ∈ column.toList, Text.isAscii c = true) :
    (∃ words, AreWords words ∧
      (Naming.snake.fieldName column).toList = ['_'].intercalate words) ∧
      Naming.snake.fieldName (Naming.snake.fieldName column) =
        Naming.snake.fieldName column := by
  have htidy := tidy_toSnake hascii
  have hlast := getLast?_toSnake column.toList
  simp only [fieldName, String.toList_ofList]
  exact ⟨htidy.exists_intercalate hlast,
    congrArg String.ofList (htidy.toSnake_eq hlast)⟩

theorem fieldName_stable_of_capital_run :
    Naming.snake.fieldName " _HTTPServer__userID9-" = "http_server_user_id9" ∧
      (∃ words, AreWords words ∧
        (Naming.snake.fieldName " _HTTPServer__userID9-").toList =
        ['_'].intercalate words) ∧
      Naming.snake.fieldName (Naming.snake.fieldName " _HTTPServer__userID9-") =
        Naming.snake.fieldName " _HTTPServer__userID9-" :=
  ⟨by decide +kernel,
    fieldName_stable _ (List.all_eq_true.mp (by decide +kernel))⟩

end NamedSql.Naming
