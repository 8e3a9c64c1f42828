import NamedSql.Proofs.Fallible
import NamedSql.Proofs.Statement.Normal
import NamedSql.Proofs.Template.Seams
import NamedSql.Proofs.Text.Replacement
import NamedSql.Statement.Declaration

/-!
Refining is splicing. Replacing the numbered tokens of a built statement one
after the other gives the parts that stay, in their order, unless a literal text
between two clauses spells the number of a clause before them: the separators
around it then belong to other tokens, and the text is taken for a token itself.
-/

namespace NamedSql

/-- The character on both sides of a clause's number. -/
def tokenMark : Char := '\x00'

namespace Part

/-- The literal SQL or the fragment of a part. -/
def text : Part → String
  | .sql text => text
  | .clause _ fragment _ => fragment

/-- Literal SQL always stays, a fragment where it is wanted. -/
def stays (wanted : String → Policy → Bool) : Part → Bool
  | .sql _ => true
  | .clause key _ policy => wanted key policy

/-- The text is free of the character that tokens are made with. -/
def Clean (part : Part) : Prop :=
  tokenMark ∉ part.text.toList

instance : DecidablePred Clean :=
  fun part => inferInstanceAs (Decidable (tokenMark ∉ part.text.toList))

end Part

namespace Statement

/-- Whether a fragment is wanted for the names supplied: none without names. -/
def wants : Presence → String → Policy → Bool
  | none, _, _ => false
  | some names, key, .present => names.contains key
  | some names, key, .absent => !names.contains key

theorem keeps_eq_wants (presence : Presence) :
    keeps presence = fun clause => wants presence clause.key clause.policy := by
  funext clause
  obtain ⟨token, key, fragment, policy⟩ := clause
  cases presence with
  | none => rfl
  | some names => cases policy <;> rfl

end Statement

namespace Declaration

/-- The texts of the parts that stay, in their order. -/
def spliced (wanted : String → Policy → Bool) (parts : List Part) : String :=
  String.join ((parts.filter (Part.stays wanted)).map Part.text)

theorem toList_spliced (wanted : String → Policy → Bool) (parts : List Part) :
    (spliced wanted parts).toList =
      (parts.filter (Part.stays wanted)).flatMap fun part =>
        part.text.toList := by
  rw [spliced, String.toList_join, List.flatMap_map]

theorem spliced_cons (wanted : String → Policy → Bool) (part : Part)
    (rest : List Part) :
    (spliced wanted (part :: rest)).toList =
      (if part.stays wanted then part.text.toList else []) ++
        (spliced wanted rest).toList := by
  rw [toList_spliced, toList_spliced]
  cases hstays : part.stays wanted with
  | false =>
      rw [List.filter_cons_of_neg (by simp [hstays])]
      rfl
  | true =>
      rw [List.filter_cons_of_pos hstays]
      rfl

/-- Literal texts that have a clause on both sides, `run` being what stands
behind the clause before. -/
def enclosedFrom (run : List Char) : List Part → List (List Char)
  | [] => []
  | .sql text :: rest => enclosedFrom (run ++ text.toList) rest
  | .clause _ _ _ :: rest => run :: enclosedFrom [] rest

/-- The literal texts between one clause and the next. -/
def enclosed : List Part → List (List Char)
  | [] => []
  | .sql _ :: rest => enclosed rest
  | .clause _ _ _ :: rest => enclosedFrom [] rest

/-- No clause's number is spelled by the literal text between two clauses behind
it. -/
def Legible : Nat → List Part → Prop
  | _, [] => True
  | used, .sql _ :: rest => Legible used rest
  | used, .clause _ _ _ :: rest =>
      Nat.toDigits 10 (used + 1) ∉ enclosed rest ∧ Legible (used + 1) rest

theorem assemble_sql (used : Nat) (text : String) (rest : List Part) :
    (assemble used (.sql text :: rest)).1 = text ++ (assemble used rest).1 ∧
      (assemble used (.sql text :: rest)).2.1 = (assemble used rest).2.1 :=
  ⟨rfl, rfl⟩

theorem assemble_clause (used : Nat) (key fragment : String) (policy : Policy)
    (rest : List Part) :
    (assemble used (.clause key fragment policy :: rest)).1 =
        clauseToken (used + 1) ++ (assemble (used + 1) rest).1 ∧
      (assemble used (.clause key fragment policy :: rest)).2.1 =
        ⟨clauseToken (used + 1), key, fragment, policy⟩ ::
          (assemble (used + 1) rest).2.1 :=
  ⟨rfl, rfl⟩

theorem toList_clauseToken (number : Nat) :
    (clauseToken number).toList =
      tokenMark :: (Nat.toDigits 10 number ++ [tokenMark]) :=
  String.toList_ofList

theorem tokenMark_notMem_toDigits (number : Nat) :
    tokenMark ∉ Nat.toDigits 10 number := by
  intro h
  have hdigit := Nat.isDigit_of_mem_toDigits (by decide) (by decide) h
  exact absurd hdigit (by decide)

theorem toDigits_ne_of_lt {number other : Nat} (h : number < other) :
    Nat.toDigits 10 number ≠ Nat.toDigits 10 other := by
  intro heq
  have hsame := congrArg (fun digits => Nat.ofDigitChars 10 digits 0) heq
  simp only [Nat.ofDigitChars_ten_toDigits] at hsame
  omega

/-- Behind a separator, tokens with greater numbers bring in no smaller one. -/
theorem token_not_infix_behind {number used : Nat} (hused : number ≤ used)
    {run : List Char} {parts : List Part} (hclean : ∀ part ∈ parts, part.Clean)
    (hrun : tokenMark ∉ run)
    (hspelled : Nat.toDigits 10 number ∉ enclosedFrom run parts) :
    ¬tokenMark :: (Nat.toDigits 10 number ++ [tokenMark]) <:+:
      tokenMark :: (run ++ (assemble used parts).1.toList) := by
  induction parts generalizing used run with
  | nil =>
      rw [show (assemble used []).1.toList = [] from rfl, List.append_nil]
      exact Text.not_infix_of_one_separator hrun
  | cons part rest ih =>
      obtain ⟨hpart, hrest⟩ := List.forall_mem_cons.mp hclean
      cases part with
      | sql text =>
          rw [(assemble_sql used text rest).1, String.toList_append,
            ← List.append_assoc]
          refine ih hused hrest ?_ hspelled
          rw [List.mem_append, not_or]
          exact ⟨hrun, hpart⟩
      | clause key fragment policy =>
          rw [enclosedFrom, List.mem_cons, not_or] at hspelled
          obtain ⟨hnow, hlater⟩ := hspelled
          intro h
          rw [(assemble_clause used key fragment policy rest).1,
            String.toList_append, toList_clauseToken, List.cons_append,
            List.append_assoc, List.singleton_append] at h
          have hdigits := tokenMark_notMem_toDigits
          rcases Text.eq_or_infix_of_separated (hdigits number) hrun
            h with heq | hbehind
          · exact hnow heq
          rcases Text.eq_or_infix_of_separated (hdigits number)
            (hdigits (used + 1)) hbehind with heq | hbehind
          · exact toDigits_ne_of_lt (by omega) heq
          · exact ih (by omega) hrest List.not_mem_nil hlater hbehind

theorem token_not_infix {number used : Nat} (hused : number ≤ used)
    {parts : List Part} (hclean : ∀ part ∈ parts, part.Clean)
    (hspelled : Nat.toDigits 10 number ∉ enclosed parts) :
    ¬tokenMark :: (Nat.toDigits 10 number ++ [tokenMark]) <:+:
      (assemble used parts).1.toList := by
  induction parts with
  | nil =>
      intro h
      cases List.eq_nil_of_infix_nil h
  | cons part rest ih =>
      obtain ⟨hpart, hrest⟩ := List.forall_mem_cons.mp hclean
      cases part with
      | sql text =>
          have htext : tokenMark ∉ text.toList := hpart
          rw [(assemble_sql used text rest).1, String.toList_append,
            Text.infix_append_iff_of_notMem htext]
          exact ih hrest hspelled
      | clause key fragment policy =>
          intro h
          rw [(assemble_clause used key fragment policy rest).1,
            String.toList_append, toList_clauseToken, List.cons_append,
            List.append_assoc, List.singleton_append] at h
          have hdigits := tokenMark_notMem_toDigits
          rcases Text.eq_or_infix_of_separated (hdigits number)
            (hdigits (used + 1)) h with heq | hbehind
          · exact toDigits_ne_of_lt (by omega) heq
          · have hnone : tokenMark ∉ ([] : List Char) := List.not_mem_nil
            exact token_not_infix_behind (by omega) hrest hnone hspelled hbehind

/-- Replacing the tokens one after the other leaves the parts that stay. What is
before the first token is settled text without token marks, so a token is found
at its own place first; the parts behind it hold no other occurrence. -/
theorem spliceText_assemble (wanted : String → Policy → Bool) {used : Nat}
    {parts : List Part} (hclean : ∀ part ∈ parts, part.Clean)
    (hlegible : Legible used parts) {settled : List Char}
    (hsettled : tokenMark ∉ settled) :
    Statement.spliceText (fun clause => wanted clause.key clause.policy)
        (assemble used parts).2.1 (settled ++ (assemble used parts).1.toList) =
      settled ++ (spliced wanted parts).toList := by
  induction parts generalizing used settled with
  | nil => rfl
  | cons part rest ih =>
      obtain ⟨hpart, hrest⟩ := List.forall_mem_cons.mp hclean
      -- what the part adds to the settled text brings in no token mark
      have hkept : tokenMark ∉ if part.stays wanted then part.text.toList
      else [] := by
        split
        · exact hpart
        · exact List.not_mem_nil
      have hboth : tokenMark ∉ settled ++ if part.stays wanted then
        part.text.toList else [] := by
        rw [List.mem_append, not_or]
        exact ⟨hsettled, hkept⟩
      rw [spliced_cons, ← List.append_assoc]
      cases part with
      | sql text =>
          rw [(assemble_sql used text rest).1, (assemble_sql used text rest).2,
            String.toList_append, ← List.append_assoc]
          exact ih hrest hlegible hboth
      | clause key fragment policy =>
          obtain ⟨hspelled, hlegible⟩ := hlegible
          have hother := token_not_infix (Nat.le_refl (used + 1)) hrest hspelled
          rw [(assemble_clause used key fragment policy rest).1,
            (assemble_clause used key fragment policy rest).2,
            Statement.spliceText, String.toList_append, toList_clauseToken,
            Text.replaceAll_append_of_notMem hsettled,
            Text.replaceAll_mark_append (List.cons_ne_nil _ _),
            Text.replaceAll_of_not_infix hother, ← List.append_assoc]
          exact ih hrest hlegible hboth

/-- A statement that carries the assembled text and its clauses. -/
structure Assembled (used : Nat) (d : Declaration) (s : Statement) : Prop where
  text : s.text = (assemble used d.parts).1
  clauses : s.clauses = (assemble used d.parts).2.1

/-- The statement before it is checked. -/
def assembled (used : Nat) (d : Declaration) : Statement :=
  .raw d.id d.kind (assemble used d.parts).1 (assemble used d.parts).2.1

/-- Without clauses there is nothing to splice. -/
theorem splice_of_unconditional {s : Statement} (h : s.hasCondition = false)
    (keep : Clause → Bool) : s.splice keep = s := by
  obtain ⟨id, kind, text, clauses, columns, held, resolved⟩ := s
  obtain rfl : clauses = [] := by simpa [Statement.hasCondition] using h
  simp [Statement.splice, Statement.spliceText]

/-- What building a declaration of SQL comes to, the number of the last token
apart. -/
theorem build_of_isSql {d : Declaration} (h : d.kind.isSql = true)
    (dialect : Dialect) (used : Nat) : (d.build dialect used).1 =
      if (d.assembled used).hasCondition then do
        let _ ← ((d.assembled used).splice fun _ => true).normalize dialect
        let _ ← ((d.assembled used).splice fun _ => false).normalize dialect
        return d.assembled used
      else (d.assembled used).normalize dialect := by
  rw [build, h, if_neg (by decide)]
  change Prod.fst (if (d.assembled used).hasCondition = true then _ else _) = _
  rw [apply_ite Prod.fst]
  rfl

/-- A statement is built where the declaration carries SQL whose text reads with
every fragment kept and with every fragment dropped. -/
theorem build_eq_ok_iff {dialect : Dialect} {used : Nat} {d : Declaration} :
    (∃ s, (d.build dialect used).1 = .ok s) ↔ d.kind.isSql = true ∧
      ∀ all : Bool, ∃ normal,
        ((d.assembled used).splice fun _ => all).normalize dialect =
          .ok normal := by
  cases hsql : d.kind.isSql with
  | false => simp [build, hsql]
  | true =>
      rw [build_of_isSql hsql]
      cases hcondition : (d.assembled used).hasCondition with
      | false => simp [splice_of_unconditional hcondition]
      | true =>
          simp only [if_true, true_and, Bool.forall_bool]
          cases ((d.assembled used).splice fun _ => true).normalize dialect with
          | error e => simp [bind, Except.bind]
          | ok kept =>
              cases ((d.assembled used).splice fun _ => false).normalize
                  dialect with
              | error e => simp [bind, Except.bind]
              | ok dropped => simp [bind, Except.bind, pure, Except.pure]

theorem assembled_of_build {dialect : Dialect} {used : Nat} {d : Declaration}
    {s : Statement} (h : (d.build dialect used).1 = .ok s) :
    Assembled used d s := by
  have hsql := (build_eq_ok_iff.mp ⟨s, h⟩).1
  rw [build_of_isSql hsql] at h
  split at h
  · obtain ⟨_, -, h⟩ := Fallible.bind_eq_ok_iff.mp h
    obtain ⟨_, -, h⟩ := Fallible.bind_eq_ok_iff.mp h
    cases h
    exact ⟨rfl, rfl⟩
  · obtain ⟨template, -, rfl⟩ := Statement.normalize_eq_ok_iff.mp h
    exact ⟨rfl, rfl⟩

/-- What is spliced depends on the assembled text and clauses only. -/
theorem Assembled.splice_text_eq {used : Nat} {d : Declaration} {s : Statement}
    (h : Assembled used d s) (keep : Clause → Bool) :
    (s.splice keep).text = ((d.assembled used).splice keep).text := by
  rw [Statement.splice, h.text, h.clauses]
  rfl

theorem Assembled.text_splice {used : Nat} {d : Declaration} {s : Statement}
    (h : Assembled used d s) (hclean : ∀ part ∈ d.parts, part.Clean)
    (hlegible : Legible used d.parts) (wanted : String → Policy → Bool) :
    (s.splice fun clause => wanted clause.key clause.policy).text =
      spliced wanted d.parts := by
  rw [h.splice_text_eq, Statement.splice, ← String.toList_inj,
    String.toList_ofList]
  have hnone : tokenMark ∉ ([] : List Char) := List.not_mem_nil
  exact spliceText_assemble wanted hclean hlegible hnone

/-- Refining puts the spliced text in place and normalizes it. -/
theorem Assembled.refine_eq_ok_iff {dialect : Dialect} {used : Nat}
    {d : Declaration} {s refined : Statement} (h : Assembled used d s)
    (hclean : ∀ part ∈ d.parts, part.Clean) (hlegible : Legible used d.parts)
    {presence : Statement.Presence} :
    s.refine dialect presence = .ok refined ↔ ∃ template,
      Template.items (spliced (Statement.wants presence) d.parts).toList =
        .ok template ∧
      refined = { s with
        text := spliced (Statement.wants presence) d.parts
        columns := Template.columns template
        held := String.ofList (Template.heldText template)
        resolved := String.ofList
          (dialect.render (Template.heldText template)) } := by
  have hsplice : s.splice (Statement.keeps presence) =
      { s with text := spliced (Statement.wants presence) d.parts } := by
    rw [Statement.keeps_eq_wants,
      ← h.text_splice hclean hlegible (Statement.wants presence)]
    rfl
  rw [Statement.refine, hsplice, Statement.normalize_eq_ok_iff]

theorem Assembled.exists_refine_iff {dialect : Dialect} {used : Nat}
    {d : Declaration} {s : Statement} (h : Assembled used d s)
    (hclean : ∀ part ∈ d.parts, part.Clean) (hlegible : Legible used d.parts)
    (presence : Statement.Presence) :
    (∃ refined, s.refine dialect presence = .ok refined) ↔
      Template.fault (spliced (Statement.wants presence) d.parts).toList =
        none := by
  rw [Template.fault_eq_none_iff]
  constructor
  · rintro ⟨refined, hrefine⟩
    obtain ⟨template, htemplate, -⟩ :=
      (h.refine_eq_ok_iff hclean hlegible).mp hrefine
    exact ⟨template, htemplate⟩
  · rintro ⟨template, htemplate⟩
    exact ⟨_,
      (h.refine_eq_ok_iff hclean hlegible).mpr ⟨template, htemplate, rfl⟩⟩

/-- A declaration of SQL is built where both texts that are checked read. -/
theorem exists_build_iff (dialect : Dialect) {used : Nat} {d : Declaration}
    (hclean : ∀ part ∈ d.parts, part.Clean) (hlegible : Legible used d.parts) :
    (∃ s, (d.build dialect used).1 = .ok s) ↔ d.kind.isSql = true ∧
      ∀ all : Bool, Template.fault (spliced (fun _ _ => all) d.parts).toList =
        none := by
  have hassembled : Assembled used d (d.assembled used) := ⟨rfl, rfl⟩
  rw [build_eq_ok_iff]
  refine and_congr_right fun _ => forall_congr' fun all => ?_
  rw [Statement.exists_normalize_iff,
    hassembled.text_splice hclean hlegible fun _ _ => all,
    Template.fault_eq_none_iff]

/-- The refined statement carries the parts that stay, spliced together in their
order. -/
theorem refine_splices_parts {dialect : Dialect} {used : Nat} {d : Declaration}
    {presence : Statement.Presence} {s refined : Statement}
    (hclean : ∀ part ∈ d.parts, part.Clean) (hlegible : Legible used d.parts)
    (hbuild : (d.build dialect used).1 = .ok s)
    (hrefine : s.refine dialect presence = .ok refined) :
    refined.text = spliced (Statement.wants presence) d.parts := by
  obtain ⟨template, -, rfl⟩ :=
    ((assembled_of_build hbuild).refine_eq_ok_iff hclean hlegible).mp hrefine
  rfl

/-- The numbers in the text are none of an earlier clause: 1 stands right behind
the first token, and 3 right before the third. -/
theorem refine_splices_spelled_numbers :
    let d : Declaration :=
      ⟨"sum", .select, [.sql "SELECT 0", .clause "a" " + :a + " .present,
        .sql "1", .clause "b" " - 2 + " .absent, .sql "3",
        .clause "c" " + :c" .present]⟩
    let presence : Statement.Presence := some ["a"]
    Legible 0 d.parts ∧ ∃ s refined, (d.build .question 0).1 = .ok s ∧
      s.refine .question presence = .ok refined ∧
      refined.text = "SELECT 0 + :a + 1 - 2 + 3" := by
  intro d presence
  have hclean : ∀ part ∈ d.parts, part.Clean := by decide
  have hlegible : Legible 0 d.parts :=
    ⟨by decide, by decide, by decide, True.intro⟩
  have hall (all : Bool) :
      Template.fault (spliced (fun _ _ => all) d.parts).toList = none := by
    cases all with
    | false =>
        exact Template.fault_eq_none_of_readable
          ("SELECT 013".toList.map .plain) (by decide) (by decide)
    | true =>
        exact Template.fault_eq_none_of_readable
          ("SELECT 0 + ".toList.map .plain ++ .slot ['a'] .single ::
            (" + 1 - 2 + 3 + ".toList.map .plain ++ [.slot ['c'] .single]))
          (by decide) (by decide)
  have hkept :
      Template.fault (spliced (Statement.wants presence) d.parts).toList =
        none :=
    Template.fault_eq_none_of_readable
      ("SELECT 0 + ".toList.map .plain ++
        .slot ['a'] .single :: " + 1 - 2 + 3".toList.map .plain)
      (by decide) (by decide)
  obtain ⟨s, hbuild⟩ :=
    (exists_build_iff .question hclean hlegible).mpr ⟨rfl, hall⟩
  obtain ⟨refined, hrefine⟩ :=
    ((assembled_of_build hbuild).exists_refine_iff hclean hlegible presence).mpr
      hkept
  have htext := refine_splices_parts hclean hlegible hbuild hrefine
  exact ⟨hlegible, s, refined, hbuild, hrefine, htext.trans (by decide)⟩

/-- The number 1 between the second clause and the third spells the token of the
first. -/
theorem refine_breaks_spelled_token :
    let d : Declaration :=
      ⟨"sum", .select, [.sql "SELECT 0", .clause "a" " + :a" .present,
        .clause "b" " + " .present, .sql "1", .clause "c" " + :c" .present]⟩
    let presence : Statement.Presence := some ["a", "b", "c"]
    ∃ s refined, (∀ part ∈ d.parts, part.Clean) ∧
      (d.build .question 0).1 = .ok s ∧
      s.refine .question presence = .ok refined ∧
      spliced (Statement.wants presence) d.parts = "SELECT 0 + :a + 1 + :c" ∧
      refined.text = "SELECT 0 + :a\x002 + :a3\x00" := by
  intro d presence
  have hkept : Template.items "SELECT 0 + :a\x002 + :a3\x00".toList =
      .ok ("SELECT 0 + ".toList.map .plain ++ .slot ['a'] .single ::
        ("\x002 + ".toList.map .plain ++
          [.slot ['a', '3'] .single, .plain '\x00'])) :=
    Template.items_eq_ok_iff.mpr ⟨by decide, by decide⟩
  have hdropped : Template.items "SELECT 0\x0023\x00".toList =
      .ok ("SELECT 0\x0023\x00".toList.map .plain) :=
    Template.items_eq_ok_iff.mpr ⟨by decide, by decide⟩
  have hreads (all : Bool) : ∃ normal,
      ((d.assembled 0).splice fun _ => all).normalize .question =
        .ok normal := by
    rw [Statement.exists_normalize_iff]
    cases all with
    | false =>
        have htext : ((d.assembled 0).splice fun _ => false).text =
            "SELECT 0\x0023\x00" := by
          decide
        rw [htext]
        exact ⟨_, hdropped⟩
    | true =>
        have htext : ((d.assembled 0).splice fun _ => true).text =
            "SELECT 0 + :a\x002 + :a3\x00" := by decide
        rw [htext]
        exact ⟨_, hkept⟩
  obtain ⟨s, hbuild⟩ := build_eq_ok_iff.mpr ⟨rfl, hreads⟩
  have hassembled := assembled_of_build hbuild
  have htext : (s.splice (Statement.keeps presence)).text =
      "SELECT 0 + :a\x002 + :a3\x00" := by
    rw [hassembled.splice_text_eq]
    decide
  have hagain : ∃ refined, s.refine .question presence = .ok refined := by
    rw [Statement.refine, Statement.exists_normalize_iff, htext]
    exact ⟨_, hkept⟩
  obtain ⟨refined, hrefine⟩ := hagain
  obtain ⟨template, -, hrefined⟩ := Statement.normalize_eq_ok_iff.mp hrefine
  exact ⟨s, refined, by decide, hbuild, hrefine, by decide,
    by rw [hrefined, htext]⟩

end Declaration

end NamedSql
