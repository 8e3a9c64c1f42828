import NamedSql.Proofs.Mapper.Registration

/-!
What an id finds. A registered statement is found by any spelling of its id. A
text that finds none and holds a space, a tab or a line break behind its first
character is meant as SQL, but the first place of a mark decides: of two equal
marks the leading one hides the other. So a text is taken for an unknown id if
it opens with such a mark and no other kind of them follows.
-/

namespace NamedSql.Registry

/-- The white space that an id does not hold. -/
def sqlMarks : List Char :=
  [' ', '\t', '\n', '\r']

/-- A first occurrence behind the start is an occurrence there of a mark that
does not lead. -/
theorem occursLate_iff {mark : Char} {text : List Char} :
    occursLate mark text = true ↔
      mark ∈ text.tail ∧ text.head? ≠ some mark := by
  cases text with
  | nil => simp [occursLate]
  | cons c rest =>
      simp only [occursLate, Bool.and_eq_true, bne_iff_ne,
        List.contains_iff_mem, List.tail_cons, List.head?_cons, ne_eq,
        Option.some.injEq]
      exact And.comm

/-- Some mark is behind the first character and is not this character again. -/
def ReadsAsSql (text : List Char) : Prop :=
  ∃ mark ∈ sqlMarks, mark ∈ text.tail ∧ text.head? ≠ some mark

theorem isSqlText_iff {text : String} :
    isSqlText text = true ↔ ReadsAsSql text.toList := by
  simp only [isSqlText, List.any_eq_true, occursLate_iff, ReadsAsSql, sqlMarks]

instance (text : List Char) : Decidable (ReadsAsSql text) :=
  List.decidableBEx (fun mark => mark ∈ text.tail ∧ text.head? ≠ some mark)
    sqlMarks

/-- Of the statements that were registered, an id finds the first accepted one
whose folded id is the same. An id that finds none is built as an ad-hoc
statement if, behind its first character, it holds a space, a tab or a line
break that is not this first character again; any other is unknown. -/
theorem find_reads_unknown_ids (calls : List Statement) (dialect : Dialect)
    (id : String) :
    let (history, registry) := empty.registerAll calls
    registry.find dialect id =
      match (accepted history).find? fun s => fold s.id = fold id with
      | some s => .ok s
      | none =>
          if ReadsAsSql id.toList then Statement.ofSql dialect id
          else .error (.notFound id) := by
  have hholds := holds_empty.registerAll calls
  rw [List.nil_append] at hholds
  generalize empty.registerAll calls = run at hholds ⊢
  obtain ⟨history, registry⟩ := run
  have hget : registry.get? id = (accepted history).find? fun s =>
    fold s.id = fold id :=
      hholds.get?_eq id
  change registry.find dialect id = _
  rw [find, hget]
  cases (accepted history).find? fun s => fold s.id = fold id with
  | some s => rfl
  | none => simp only [isSqlText_iff]

/-- The blank behind the keyword goes unseen, since another one leads. -/
theorem find_misses_sql_behind_blank :
    let sql := " SELECT 1"
    (∃ mark ∈ sqlMarks, mark ∈ sql.toList.tail) ∧
      empty.find .question sql = .error (.notFound sql) ∧
      Statement.ofSql .question sql =
        .ok ⟨sql, .select, sql, [], [], sql, sql⟩ := by
  intro sql
  have hmark : ' ' ∈ sql.toList.tail := by decide
  have hunseen : isSqlText sql = false := by decide
  have hget : empty.get? sql = none := rfl
  refine ⟨⟨' ', List.mem_cons_self, hmark⟩, ?_, ?_⟩
  · rw [find, hget]
    simp only [hunseen, Bool.false_eq_true, if_false]
  · decide +kernel

end NamedSql.Registry
