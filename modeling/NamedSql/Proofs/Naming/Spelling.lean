import NamedSql.Proofs.Naming.Stability

/-!
Column names in the usual spellings meet in one field name. Whether the words of
a name are told apart by capitals or by underscores, its conversion is the words
joined by single underscores.
-/

namespace NamedSql.Naming

/-- Small letters with digits behind them, at least two characters. The least
length keeps the capital of one word apart from that of the next. -/
structure Word where
  initial : Char
  letters : List Char
  digits : List Char
  initial_lower : initial.isLower = true
  letters_lower : ∀ c ∈ letters, c.isLower = true
  digits_digit : ∀ c ∈ digits, c.isDigit = true
  two_le_length : 2 ≤ (initial :: letters ++ digits).length

namespace Word

def chars (word : Word) : List Char :=
  word.initial :: word.letters ++ word.digits

def capitalized (word : Word) : List Char :=
  word.initial.toUpper :: word.letters ++ word.digits

def inCapitals (word : Word) : List Char :=
  word.chars.map Char.toUpper

end Word

inductive Spelling where
  | camel
  | pascal
  | upperSnake
  | snake
deriving DecidableEq, Repr

/-- How the words of a name are written as one. -/
def Spelling.write : Spelling → List Word → List Char
  | .camel, [] => []
  | .camel, first :: rest => first.chars ++ rest.flatMap Word.capitalized
  | .pascal, words => words.flatMap Word.capitalized
  | .upperSnake, words => ['_'].intercalate (words.map Word.inCapitals)
  | .snake, words => ['_'].intercalate (words.map Word.chars)

theorem isWordChar_of_isLower {c : Char} (h : c.isLower = true) :
    isWordChar c = true := by
  rw [isWordChar, h, Bool.true_or]

theorem isWordChar_of_isDigit {c : Char} (h : c.isDigit = true) :
    isWordChar c = true := by
  rw [isWordChar, h, Bool.or_true]

theorem Word.isWordChar_of_mem (word : Word) {c : Char} (h : c ∈ word.chars) :
    isWordChar c = true := by
  rcases List.mem_append.mp h with hmem | hmem
  · rcases List.mem_cons.mp hmem with rfl | hmem
    · exact isWordChar_of_isLower word.initial_lower
    · exact isWordChar_of_isLower (word.letters_lower c hmem)
  · exact isWordChar_of_isDigit (word.digits_digit c hmem)

/-- The capital of a small letter. -/
structure IsCapital (c capital : Char) : Prop where
  alphanumeric : Text.isAlphanumeric capital = true
  upper : Text.isUpper capital = true
  not_lower : Text.isLower capital = false
  not_digit : capital.isDigit = false
  lowerCase : Text.lowerCase capital = [c]

theorem isCapital_toUpper {c : Char} (h : c.isLower = true) :
    IsCapital c c.toUpper := by
  have hascii := isAscii_of_isWordChar (isWordChar_of_isLower h)
  have hfacts := forall_ascii (P := fun c => c.isLower = true →
    Text.isAlphanumeric c.toUpper = true ∧ Text.isUpper c.toUpper = true ∧
      Text.isLower c.toUpper = false ∧ c.toUpper.isDigit = false ∧
      Text.lowerCase c.toUpper = [c]) (by decide +kernel) hascii h
  obtain ⟨halpha, hupper, hlower, hdigit, hcase⟩ := hfacts
  exact ⟨halpha, hupper, hlower, hdigit, hcase⟩

theorem toUpper_of_isDigit {c : Char} (h : c.isDigit = true) : c.toUpper = c :=
  forall_ascii (P := fun c => c.isDigit = true → c.toUpper = c)
    (by decide +kernel) (isAscii_of_isWordChar (isWordChar_of_isDigit h)) h

variable {previous : Option Char} {separable : Bool} {rest : List Char}

theorem startsWord_of_not_upper {c : Char} (previous next : Option Char)
    (h : Text.isUpper c = false) : startsWord previous c next = false := by
  simp only [startsWord, h, Bool.false_and]

/-- A capital behind a small letter or a digit starts a word. -/
theorem startsWord_behind_word {c p : Char} (next : Option Char)
    (hc : Text.isUpper c = true) (hp : isWordChar p = true) :
    startsWord (some p) c next = true := by
  have hlower : Text.isLower p = p.isLower := by
    rw [Text.isLower, if_pos (isAscii_of_isWordChar hp)]
  rw [isWordChar] at hp
  simp only [startsWord, hc, hlower, hp, Bool.true_or, Bool.true_and]

/-- A capital behind a capital starts no word unless a small letter follows. -/
theorem startsWord_behind_capital {b c : Char} {next : Option Char}
    {capital : Char} (hb : IsCapital b capital)
    (hnext : next.any Text.isLower = false) :
    startsWord (some capital) c next = false := by
  simp only [startsWord, hb.not_lower, hb.not_digit, hnext, Bool.and_false,
    Bool.or_false]

/-- What starts with no letter. -/
structure StartsPlain (text : List Char) : Prop where
  not_upper : text.head?.any Text.isUpper = false
  not_lower : text.head?.any Text.isLower = false

/-- What precedes a text matters for a capital at its start only. -/
theorem snakeFrom_of_startsPlain (h : StartsPlain rest)
    (previous other : Option Char) (separable : Bool) :
    snakeFrom previous separable rest = snakeFrom other separable rest := by
  cases rest with
  | nil => rfl
  | cons c rest =>
      have hc : Text.isUpper c = false := h.not_upper
      rw [snakeFrom, snakeFrom, startsWord_of_not_upper previous _ hc,
        startsWord_of_not_upper other _ hc]

theorem startsPlain_append_digits {digits : List Char}
    (h : ∀ c ∈ digits, c.isDigit = true) (hrest : StartsPlain rest) :
    StartsPlain (digits ++ rest) := by
  cases digits with
  | nil => exact hrest
  | cons c digits =>
      have hc := h c List.mem_cons_self
      have hword := isWordChar_of_isDigit hc
      have hlower :=
        forall_ascii (P := fun c => c.isDigit = true → Text.isLower c = false)
          (by decide +kernel) (isAscii_of_isWordChar hword) hc
      exact ⟨isUpper_of_isWordChar hword, hlower⟩

theorem snakeFrom_cons_capital {c capital : Char} (hc : IsCapital c capital) :
    snakeFrom previous separable (capital :: rest) =
      (if separable && startsWord previous capital rest.head? then ['_']
      else []) ++
        c :: snakeFrom (some capital) true rest := by
  rw [snakeFrom, if_pos hc.alphanumeric, hc.lowerCase, List.append_assoc]
  rfl

/-- Small letters and digits are written as they are. -/
theorem snakeFrom_append_run {run : List Char}
    (h : ∀ c ∈ run, isWordChar c = true) (previous : Option Char)
    (separable : Bool) (rest : List Char) :
    snakeFrom previous separable (run ++ rest) =
      run ++ snakeFrom (run.getLast?.or previous) (separable || !run.isEmpty)
        rest := by
  induction run generalizing previous separable with
  | nil => simp
  | cons c run ih =>
      obtain ⟨hc, hrun⟩ := List.forall_mem_cons.mp h
      rw [List.cons_append, snakeFrom_cons_wordChar _ _ hc, ih hrun,
        List.getLast?_cons]
      cases run.getLast? <;> simp

/-- A run of capitals with no small letter behind it is one word. -/
theorem snakeFrom_append_capitals {run : List Char}
    (h : ∀ c ∈ run, c.isLower = true) {b capital : Char}
    (hb : IsCapital b capital) (hrest : StartsPlain rest) :
    snakeFrom (some capital) true (run.map Char.toUpper ++ rest) =
      run ++ snakeFrom none true rest := by
  induction run generalizing b capital with
  | nil => exact snakeFrom_of_startsPlain hrest _ _ _
  | cons c run ih =>
      obtain ⟨hc, hrun⟩ := List.forall_mem_cons.mp h
      have hcapital := isCapital_toUpper hc
      have hnext :
          (run.map Char.toUpper ++ rest).head?.any Text.isLower = false := by
        cases run with
        | nil => exact hrest.not_lower
        | cons d run =>
            exact (isCapital_toUpper (hrun d List.mem_cons_self)).not_lower
      rw [List.map_cons, List.cons_append, snakeFrom_cons_capital hcapital,
        startsWord_behind_capital hb hnext, ih hrun hcapital]
      rfl

/-- Where a capital starts a word. -/
def BehindWord (previous : Option Char) : Prop :=
  ∃ p, previous = some p ∧ isWordChar p = true

theorem behindWord_getLast? {run : List Char}
    (h : ∀ c ∈ run, isWordChar c = true) (hne : run ≠ [])
    (previous : Option Char) : BehindWord (run.getLast?.or previous) := by
  refine ⟨run.getLast hne, ?_, h _ (List.getLast_mem hne)⟩
  rw [List.getLast?_eq_some_getLast hne, Option.some_or]

theorem Word.tail_ne_nil (word : Word) : word.letters ++ word.digits ≠ [] := by
  intro hnil
  have hlength := word.two_le_length
  rw [List.cons_append, hnil] at hlength
  exact Nat.not_succ_le_self 1 hlength

theorem Word.behindWord_getLast? (word : Word) (previous : Option Char) :
    BehindWord (word.chars.getLast?.or previous) :=
  Naming.behindWord_getLast? (fun _ => word.isWordChar_of_mem)
    (List.cons_ne_nil _ _) previous

theorem snakeFrom_chars (word : Word) (previous : Option Char)
    (separable : Bool) (rest : List Char) :
    snakeFrom previous separable (word.chars ++ rest) =
      word.chars ++ snakeFrom (word.chars.getLast?.or previous) true rest := by
  rw [snakeFrom_append_run fun _ => word.isWordChar_of_mem]
  simp [Word.chars]

/-- A word with a capital is written behind an underscore if a word comes before
it, and as it is at the start of a name. -/
theorem exists_snakeFrom_capitalized (word : Word) (previous : Option Char)
    (separable : Bool) (rest : List Char) : ∃ last, BehindWord last ∧
      snakeFrom previous separable (word.capitalized ++ rest) =
        (if separable && startsWord previous word.initial.toUpper
            (word.letters ++ word.digits ++ rest).head? then ['_'] else []) ++
          word.chars ++ snakeFrom last true rest := by
  have hcapital := isCapital_toUpper word.initial_lower
  have htail : ∀ c ∈ word.letters ++ word.digits, isWordChar c = true :=
    fun c hmem =>
      word.isWordChar_of_mem (List.mem_cons_of_mem word.initial hmem)
  refine ⟨_,
    behindWord_getLast? htail word.tail_ne_nil (some word.initial.toUpper), ?_⟩
  rw [Word.capitalized, List.cons_append, List.cons_append,
    snakeFrom_cons_capital hcapital, snakeFrom_append_run htail]
  simp [Word.chars]

theorem snakeFrom_flatMap_capitalized (words : List Word)
    (h : BehindWord previous) :
    snakeFrom previous true (words.flatMap Word.capitalized) =
      words.flatMap fun word => '_' :: word.chars := by
  induction words generalizing previous with
  | nil => rfl
  | cons word rest ih =>
      obtain ⟨p, rfl, hp⟩ := h
      obtain ⟨last, hlast, heq⟩ :=
        exists_snakeFrom_capitalized word (some p) true
          (rest.flatMap Word.capitalized)
      rw [List.flatMap_cons, heq, ih hlast,
        startsWord_behind_word _
          (isCapital_toUpper word.initial_lower).upper hp]
      rfl

theorem snakeFrom_inCapitals (word : Word) (previous : Option Char)
    (hrest : StartsPlain rest) :
    snakeFrom previous false (word.inCapitals ++ rest) =
      word.chars ++ snakeFrom none true rest := by
  have hcapital := isCapital_toUpper word.initial_lower
  have hdigits : word.digits.map Char.toUpper = word.digits := by
    have hsame : ∀ c ∈ word.digits, c.toUpper = c := fun c hmem =>
      toUpper_of_isDigit (word.digits_digit c hmem)
    rw [List.map_congr_left hsame, List.map_id']
  have hwritten : word.inCapitals ++ rest =
      word.initial.toUpper ::
        (word.letters.map Char.toUpper ++ (word.digits ++ rest)) := by
    simp [Word.inCapitals, Word.chars, hdigits]
  have hword : ∀ c ∈ word.digits, isWordChar c = true := fun c hmem =>
    isWordChar_of_isDigit (word.digits_digit c hmem)
  rw [hwritten, snakeFrom_cons_capital hcapital,
    snakeFrom_append_capitals word.letters_lower hcapital
      (startsPlain_append_digits word.digits_digit hrest),
    snakeFrom_append_run hword, snakeFrom_of_startsPlain hrest _ none]
  simp [Word.chars]

theorem intercalate_map_cons (write : Word → List Char) (first : Word)
    (rest : List Word) :
    ['_'].intercalate ((first :: rest).map write) =
      write first ++ rest.flatMap fun word => '_' :: write word := by
  rw [List.map_cons, intercalate_cons, List.flatMap_map]

theorem startsPlain_flatMap (write : Word → List Char) (words : List Word) :
    StartsPlain (words.flatMap fun word => '_' :: write word) := by
  cases words with
  | nil => exact ⟨rfl, rfl⟩
  | cons word rest =>
      have hmark :
          Text.isUpper '_' = false ∧ Text.isLower '_' = false := by decide
      exact ⟨hmark.1, hmark.2⟩

/-- Words that are told apart by underscores keep them. -/
theorem snakeFrom_flatMap_underscore {write : Word → List Char}
    (hwrite : ∀ word previous rest, StartsPlain rest →
      snakeFrom previous false (write word ++ rest) =
      word.chars ++ snakeFrom none true rest)
    (words : List Word) (previous : Option Char) :
    snakeFrom previous true (words.flatMap fun word => '_' :: write word) =
      words.flatMap fun word => '_' :: word.chars := by
  induction words generalizing previous with
  | nil => rfl
  | cons word rest ih =>
      rw [List.flatMap_cons, List.cons_append, snakeFrom_cons_underscore,
        hwrite word _ _ (startsPlain_flatMap write rest), ih]
      rfl

theorem snakeFrom_write (spelling : Spelling) (words : List Word) :
    snakeFrom none false (spelling.write words) =
      ['_'].intercalate (words.map Word.chars) := by
  cases words with
  | nil => cases spelling <;> rfl
  | cons first rest =>
      rw [intercalate_map_cons]
      cases spelling with
      | camel =>
          rw [Spelling.write, snakeFrom_chars,
            snakeFrom_flatMap_capitalized rest (first.behindWord_getLast? none)]
      | pascal =>
          obtain ⟨last, hlast, heq⟩ :=
            exists_snakeFrom_capitalized first none false
              (rest.flatMap Word.capitalized)
          rw [Spelling.write, List.flatMap_cons, heq,
            snakeFrom_flatMap_capitalized rest hlast]
          rfl
      | upperSnake =>
          rw [Spelling.write, intercalate_map_cons,
            snakeFrom_inCapitals first none (startsPlain_flatMap _ rest),
            snakeFrom_flatMap_underscore fun word previous _ =>
              snakeFrom_inCapitals word previous]
      | snake =>
          have hchars : ∀ (word : Word) previous rest, StartsPlain rest →
              snakeFrom previous false (word.chars ++ rest) =
                word.chars ++ snakeFrom none true rest := by
            intro word previous rest hrest
            rw [snakeFrom_chars, snakeFrom_of_startsPlain hrest]
          rw [Spelling.write, intercalate_map_cons,
            hchars first none _ (startsPlain_flatMap _ rest),
            snakeFrom_flatMap_underscore hchars]

theorem Word.getLast?_chars (word : Word) : word.chars.getLast? ≠ some '_' := by
  intro hlast
  exact absurd (word.isWordChar_of_mem (List.mem_of_getLast? hlast)) (by decide)

/-- No name of words ends in an underscore. -/
theorem getLast?_append_words {text : List Char} (h : text.getLast? ≠ some '_')
    (words : List Word) :
    (text ++ words.flatMap fun word => '_' :: word.chars).getLast? ≠
      some '_' := by
  induction words generalizing text with
  | nil => simpa using h
  | cons word rest ih =>
      have hword : (text ++ '_' :: word.chars).getLast? ≠ some '_' := by
        rw [List.getLast?_append_of_ne_nil _ (List.cons_ne_nil _ _)]
        exact word.getLast?_chars
      rw [List.flatMap_cons, ← List.append_assoc]
      exact ih hword

theorem getLast?_intercalate_chars (words : List Word) :
    (['_'].intercalate (words.map Word.chars)).getLast? ≠ some '_' := by
  cases words with
  | nil => exact nofun
  | cons first rest =>
      rw [intercalate_map_cons]
      exact getLast?_append_words first.getLast?_chars rest

/-- Column spellings meet in one field name: however the words of a name are
told apart, they are joined by single underscores. -/
theorem fieldName_write (spelling : Spelling) (words : List Word) :
    Naming.snake.fieldName (String.ofList (spelling.write words)) =
      String.ofList (['_'].intercalate (words.map Word.chars)) := by
  have hlast := getLast?_intercalate_chars words
  rw [fieldName, String.toList_ofList, toSnake_eq_rdropWhile, snakeFrom_write,
    rdropWhile_eq_self_iff.mpr hlast]

example :
    let words : List Word :=
      [⟨'u', ['s', 'e', 'r'], [], rfl, List.all_eq_true.mp rfl, nofun,
        by decide⟩,
        ⟨'i', ['d'], ['2'], rfl, List.all_eq_true.mp rfl,
          List.all_eq_true.mp rfl, by decide⟩]
    [Spelling.camel, .pascal, .upperSnake, .snake].map
        (fun spelling => String.ofList (spelling.write words)) =
      ["userId2", "UserId2", "USER_ID2", "user_id2"] := by
  decide +kernel

/-- Two words of one letter each are taken for one. -/
example : Naming.snake.fieldName "AB" = "ab" := by decide +kernel

end NamedSql.Naming
