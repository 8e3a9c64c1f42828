import NamedSql.Proofs.Statement.Splicing
import NamedSql.Proofs.Template.Holding
import NamedSql.Proofs.Template.Quoting

/-!
When refining succeeds, and what it gives. Building checks two of the texts that
refining can lead to. Where no part continues what stands before it and every
fragment closes the quotes that it opens, that is enough for all of them. Where
moreover each part reads on its own, the refined statement is put together from
the normalized parts.
-/

namespace NamedSql

open Template

namespace Declaration

theorem opensApart_of_mem_enclosedFrom {run : List Char} {parts : List Part}
    (hrun : OpensApart run)
    (hparts : ∀ part ∈ parts, OpensApart part.text.toList) :
    ∀ literal ∈ enclosedFrom run parts, OpensApart literal := by
  induction parts generalizing run with
  | nil => exact List.forall_mem_nil _
  | cons part rest ih =>
      obtain ⟨hpart, hrest⟩ := List.forall_mem_cons.mp hparts
      cases part with
      | sql text => exact ih (hrun.append hpart) hrest
      | clause key fragment policy =>
          rw [enclosedFrom, List.forall_mem_cons]
          exact ⟨hrun, ih opensApart_nil hrest⟩

theorem opensApart_of_mem_enclosed {parts : List Part}
    (hparts : ∀ part ∈ parts, OpensApart part.text.toList) :
    ∀ literal ∈ enclosed parts, OpensApart literal := by
  induction parts with
  | nil => exact List.forall_mem_nil _
  | cons part rest ih =>
      obtain ⟨-, hrest⟩ := List.forall_mem_cons.mp hparts
      cases part with
      | sql text => exact ih hrest
      | clause key fragment policy =>
          exact opensApart_of_mem_enclosedFrom opensApart_nil hrest

/-- Digits continue a name. -/
theorem not_opensApart_toDigits (number : Nat) :
    ¬OpensApart (Nat.toDigits 10 number) := by
  intro h
  obtain ⟨digit, rest, hdigits⟩ :=
    List.exists_cons_of_ne_nil
      (Nat.toDigits_ne_nil : Nat.toDigits 10 number ≠ [])
  have hdigit : digit.isDigit = true :=
    Nat.isDigit_of_mem_toDigits (by decide) (by decide)
      (hdigits ▸ List.mem_cons_self)
  rw [hdigits] at h
  obtain ⟨hname, -⟩ := setsApart_iff.mp (h digit rfl)
  simp [isNameChar, Char.isAlphanum, hdigit] at hname

/-- Parts that continue nothing spell no number. -/
theorem legible_of_opensApart {used : Nat} {parts : List Part}
    (hparts : ∀ part ∈ parts.tail, OpensApart part.text.toList) :
    Legible used parts := by
  induction parts generalizing used with
  | nil => exact True.intro
  | cons part rest ih =>
      have hlegible (used : Nat) : Legible used rest :=
        ih fun part hmem => hparts part (List.mem_of_mem_tail hmem)
      cases part with
      | sql text => exact hlegible used
      | clause key fragment policy =>
          refine ⟨?_, hlegible (used + 1)⟩
          intro hmem
          exact not_opensApart_toDigits _
            (opensApart_of_mem_enclosed hparts _ hmem)

/-- Every fragment closes the quotes that it opens and opens those that it
closes, where it stands: `opened` is the quote that the literal texts before it
have left open. -/
def Balanced : Option Char → List Part → Prop
  | _, [] => True
  | opened, .sql text :: rest => Balanced (openAfter opened text.toList) rest
  | opened, .clause _ fragment _ :: rest =>
      openAfter opened fragment.toList = opened ∧ Balanced opened rest

theorem opensApart_spliced {wanted : String → Policy → Bool} {parts : List Part}
    (hparts : ∀ part ∈ parts, OpensApart part.text.toList) :
    OpensApart (spliced wanted parts).toList := by
  rw [toList_spliced, List.flatMap_def]
  refine OpensApart.flatten ?_
  rw [List.forall_mem_map]
  exact fun part hmem => hparts part (List.mem_of_mem_filter hmem)

/-- Fragments may be left out of a text that reads with all of them, as long as
they leave quoting as it was before them. -/
theorem fault_spliced_of_balanced (opened : Option Char) {parts : List Part}
    (hopened : ∀ mark ∈ opened, isQuote mark = true)
    (hparts : ∀ part ∈ parts.tail, OpensApart part.text.toList)
    (hbalanced : Balanced opened parts)
    (hall : fault (opened.toList ++ (spliced (fun _ _ => true) parts).toList) =
      none) (wanted : String → Policy → Bool) :
    fault (opened.toList ++ (spliced wanted parts).toList) = none := by
  induction parts generalizing opened with
  | nil => exact hall
  | cons part rest ih =>
      have htail : ∀ part ∈ rest.tail, OpensApart part.text.toList :=
        fun part hmem => hparts part (List.mem_of_mem_tail hmem)
      have hapart (wanted : String → Policy → Bool) :
          OpensApart (spliced wanted rest).toList :=
        opensApart_spliced hparts
      rw [spliced_cons] at hall ⊢
      cases part with
      | sql text =>
          obtain ⟨hlists, hrest⟩ :=
            (fault_append_eq_none_iff hopened (hapart _)).mp hall
          exact (fault_append_eq_none_iff hopened (hapart _)).mpr
            ⟨hlists, ih _ (isQuote_of_openAfter hopened) htail hbalanced hrest⟩
      | clause key fragment policy =>
          obtain ⟨hfragment, hbalanced⟩ := hbalanced
          have hkept : fault (opened.toList ++
              (fragment.toList ++ (spliced (fun _ _ => true) rest).toList)) =
                none := hall
          obtain ⟨hlists, hrest⟩ :=
            (fault_append_eq_none_iff hopened (hapart _)).mp hkept
          rw [hfragment] at hrest
          have hdropped := ih _ hopened htail hbalanced hrest
          split
          · refine (fault_append_eq_none_iff hopened (hapart _)).mpr
              ⟨hlists, ?_⟩
            exact hfragment.symm ▸ hdropped
          · exact hdropped

theorem spliceText_congr {keep other : Clause → Bool} {clauses : List Clause}
    (h : ∀ clause ∈ clauses, keep clause = other clause) (text : List Char) :
    Statement.spliceText keep clauses text =
      Statement.spliceText other clauses text := by
  induction clauses generalizing text with
  | nil => rfl
  | cons clause rest ih =>
      obtain ⟨hclause, hrest⟩ := List.forall_mem_cons.mp h
      rw [Statement.spliceText, Statement.spliceText, hclause, ih hrest]

/-- Names for which the clauses go all the same way lead to a text that was
checked. So a call without names always refines, whatever the parts are. -/
theorem refine_succeeds_of_uniform {dialect : Dialect} {used : Nat}
    {d : Declaration} {s : Statement} {presence : Statement.Presence}
    {all : Bool} (hbuild : (d.build dialect used).1 = .ok s)
    (huniform : ∀ clause ∈ s.clauses, Statement.keeps presence clause = all) :
    ∃ refined, s.refine dialect presence = .ok refined := by
  have hchecked := (build_eq_ok_iff.mp ⟨s, hbuild⟩).2 all
  have htext : (s.splice (Statement.keeps presence)).text =
      ((d.assembled used).splice fun _ => all).text := by
    rw [← (assembled_of_build hbuild).splice_text_eq fun _ => all]
    exact congrArg String.ofList (spliceText_congr huniform s.text.toList)
  rw [Statement.exists_normalize_iff] at hchecked
  rwa [Statement.refine, Statement.exists_normalize_iff, htext]

/-- A statement that was built is refined without fault for all names, if no
part continues what stands before it and every fragment leaves quoting as it was
before it. -/
theorem refine_succeeds_of_balanced {dialect : Dialect} {used : Nat}
    {d : Declaration} {s : Statement} (hclean : ∀ part ∈ d.parts, part.Clean)
    (hparts : ∀ part ∈ d.parts.tail, OpensApart part.text.toList)
    (hbalanced : Balanced none d.parts)
    (hbuild : (d.build dialect used).1 = .ok s)
    (presence : Statement.Presence) :
    ∃ refined, s.refine dialect presence = .ok refined := by
  have hlegible : Legible used d.parts := legible_of_opensApart hparts
  have hall :=
    ((exists_build_iff dialect hclean hlegible).mp ⟨s, hbuild⟩).2 true
  rw [(assembled_of_build hbuild).exists_refine_iff hclean hlegible]
  exact fault_spliced_of_balanced none (by simp) hparts hbalanced hall _

/-- A literal text leaves a quote open for a fragment within it and a text
behind it. Parts begin with a quote, a space, a comma and the end of a line. -/
theorem refine_succeeds_within_quotes :
    let d : Declaration := ⟨"q", .select, [.sql "SELECT 'it",
      .clause "a" "\"is\" :k" .present, .sql " on' || (:k",
      .clause "b" ",'?',:i[]" .absent, .sql "\n)"]⟩
    ∃ s, (d.build .dollar 4).1 = .ok s ∧
      ∀ presence, ∃ refined, s.refine .dollar presence = .ok refined := by
  intro d
  have hclean : ∀ part ∈ d.parts, part.Clean := by decide
  have hparts : ∀ part ∈ d.parts.tail, OpensApart part.text.toList := by decide
  have hall (all : Bool) :
      fault (spliced (fun _ _ => all) d.parts).toList = none := by
    cases all with
    | false =>
        exact fault_eq_none_of_readable ("SELECT ".toList.map .plain ++
          .quoted '\'' "it on".toList :: (" || (".toList.map .plain ++
          .slot ['k'] .single :: "\n)".toList.map .plain))
          (by decide) (by decide)
    | true =>
        exact fault_eq_none_of_readable ("SELECT ".toList.map .plain ++
          .quoted '\'' "it\"is\" :k on".toList :: (" || (".toList.map .plain ++
          .slot ['k'] .single :: .plain ',' :: .quoted '\'' ['?'] ::
          .plain ',' :: .slot ['i'] .list :: "\n)".toList.map .plain))
          (by decide) (by decide)
  have hlegible : Legible 4 d.parts := legible_of_opensApart hparts
  obtain ⟨s, hbuild⟩ :=
    (exists_build_iff .dollar hclean hlegible).mpr ⟨rfl, hall⟩
  exact ⟨s, hbuild,
    refine_succeeds_of_balanced hclean hparts ⟨rfl, rfl, True.intro⟩ hbuild⟩

/-- One fragment opens a quote and another closes it: with both and with neither
the text reads, and with the first alone it does not. -/
theorem refine_fails_between_checks :
    let d : Declaration :=
      ⟨"q", .select, [.sql "SELECT 1", .clause "a" " + '" .present,
        .clause "b" " '" .present]⟩
    ∃ s, (d.build .question 0).1 = .ok s ∧
      ¬∃ refined, s.refine .question (some ["a"]) = .ok refined := by
  intro d
  have hclean : ∀ part ∈ d.parts, part.Clean := by decide
  have hlegible : Legible 0 d.parts := legible_of_opensApart (by decide)
  have hall (all : Bool) :
      fault (spliced (fun _ _ => all) d.parts).toList = none := by
    cases all with
    | false =>
        exact fault_eq_none_of_readable ("SELECT 1".toList.map .plain)
          (by decide) (by decide)
    | true =>
        exact fault_eq_none_of_readable
          ("SELECT 1 + ".toList.map .plain ++ [.quoted '\'' [' ']])
          (by decide) (by decide)
  obtain ⟨s, hbuild⟩ :=
    (exists_build_iff .question hclean hlegible).mpr ⟨rfl, hall⟩
  refine ⟨s, hbuild, ?_⟩
  rw [(assembled_of_build hbuild).exists_refine_iff hclean hlegible]
  intro hreads
  exact absurd (openAfter_of_fault_eq_none hreads) (by decide)

theorem token_of_mem_assemble {used : Nat} {parts : List Part} {clause : Clause}
    (h : clause ∈ (assemble used parts).2.1) :
    ∃ number, clause.token = clauseToken number := by
  induction parts generalizing used with
  | nil => cases h
  | cons part rest ih =>
      cases part with
      | sql text => exact ih h
      | clause key fragment policy =>
          rcases List.mem_cons.mp h with rfl | hrest
          · exact ⟨used + 1, rfl⟩
          · exact ih hrest

/-- A text without token marks is left as it is. -/
theorem spliceText_of_clean {keep : Clause → Bool} {clauses : List Clause}
    {text : List Char} (htokens : ∀ clause ∈ clauses, ∃ number,
      clause.token = clauseToken number)
    (hclean : tokenMark ∉ text) :
    Statement.spliceText keep clauses text = text := by
  induction clauses with
  | nil => rfl
  | cons clause rest ih =>
      obtain ⟨⟨number, htoken⟩, hrest⟩ := List.forall_mem_cons.mp htokens
      have habsent : ¬clause.token.toList <:+: text := by
        intro hoccurs
        rw [htoken, toList_clauseToken] at hoccurs
        exact hclean (hoccurs.subset List.mem_cons_self)
      rw [Statement.spliceText, Text.replaceAll_of_not_infix habsent, ih hrest]

/-- Refining settles every clause: it changes nothing when it is repeated, for
whatever names. -/
theorem Assembled.refine_refine {dialect : Dialect} {used : Nat}
    {d : Declaration} {presence : Statement.Presence} {s refined : Statement}
    (h : Assembled used d s) (hclean : ∀ part ∈ d.parts, part.Clean)
    (hlegible : Legible used d.parts)
    (hrefine : s.refine dialect presence = .ok refined)
    (other : Statement.Presence) :
    refined.refine dialect other = .ok refined := by
  obtain ⟨template, -, hrefined⟩ :=
    (h.refine_eq_ok_iff hclean hlegible).mp hrefine
  have hunmarked : tokenMark ∉ refined.text.toList := by
    rw [hrefined, toList_spliced, List.mem_flatMap]
    rintro ⟨part, hmem, hmark⟩
    exact hclean part (List.mem_of_mem_filter hmem) hmark
  have htokens : ∀ clause ∈ refined.clauses, ∃ number,
      clause.token = clauseToken number := by
    rw [hrefined, h.clauses]
    exact fun clause => token_of_mem_assemble
  have hsettled : refined.splice (Statement.keeps other) = refined := by
    rw [Statement.splice, spliceText_of_clean htokens hunmarked,
      String.ofList_toList]
  rw [Statement.refine, hsettled]
  exact Statement.normalize_of_normalize hrefine

section Composing

variable {dialect : Dialect} {id : String} {kind : StatementKind}
  {normal : Part → Statement}

/-- The columns of normal statements whose held texts are put one behind the
other, `bytes` of held text standing before them. -/
def placed (bytes : Nat) : List Statement → List Column
  | [] => []
  | s :: rest =>
      s.columns.map (Column.shift bytes) ++
        placed (bytes + s.held.utf8ByteSize) rest

/-- Parts that normalize on their own read together, and are held together. -/
theorem reads_of_normal {parts : List Part}
    (hnormal : ∀ part ∈ parts,
      (Statement.raw id kind part.text []).normalize dialect =
      .ok (normal part))
    (hparts : ∀ part ∈ parts.tail, OpensApart part.text.toList) : ∃ template,
      items (parts.flatMap fun part => part.text.toList) = .ok template ∧
      String.ofList (heldText template) =
        String.join (parts.map fun part => (normal part).held) ∧
      ∀ bytes, columnsFrom bytes template =
        placed bytes (parts.map normal) := by
  induction parts with
  | nil => exact ⟨[], by rw [List.flatMap_nil, items], rfl, fun _ => rfl⟩
  | cons part rest ih =>
      obtain ⟨hpart, hrest⟩ := List.forall_mem_cons.mp hnormal
      have htail : ∀ part ∈ rest.tail, OpensApart part.text.toList :=
        fun part hmem => hparts part (List.mem_of_mem_tail hmem)
      obtain ⟨behind, hbehind, hheld, hcolumns⟩ := ih hrest htail
      obtain ⟨template, hitems, hfirst⟩ :=
        Statement.normalize_eq_ok_iff.mp hpart
      have htemplate : items part.text.toList = .ok template := hitems
      have hapart : OpensApart (rest.flatMap fun part => part.text.toList) := by
        rw [List.flatMap_def]
        exact OpensApart.flatten (List.forall_mem_map.mpr hparts)
      refine ⟨template ++ behind, ?_, ?_, ?_⟩
      · rw [List.flatMap_cons, items_append htemplate hapart, hbehind]
        rfl
      · rw [heldText_append, String.ofList_append, hheld, List.map_cons,
          String.join_cons, hfirst]
      · intro bytes
        rw [columnsFrom_append, columnsFrom_eq_map bytes, hcolumns,
          List.map_cons, placed, hfirst, Text.utf8ByteSize_ofList]

theorem items_spliced_of_normal {parts : List Part}
    (hnormal : ∀ part ∈ parts,
      (Statement.raw id kind part.text []).normalize dialect =
      .ok (normal part))
    (hparts : ∀ part ∈ parts.tail, OpensApart part.text.toList)
    (wanted : String → Policy → Bool) :
    ∃ template, items (spliced wanted parts).toList = .ok template ∧
      String.ofList (heldText template) = String.join
        ((parts.filter (Part.stays wanted)).map fun part =>
          (normal part).held) ∧
      ∀ bytes, columnsFrom bytes template =
        placed bytes ((parts.filter (Part.stays wanted)).map normal) := by
  have htail : (parts.filter (Part.stays wanted)).tail.Sublist parts.tail :=
    List.filter_sublist.tail
  rw [toList_spliced]
  exact reads_of_normal
    (fun part hmem => hnormal part (List.mem_of_mem_filter hmem))
    fun part hmem => hparts part (htail.subset hmem)

end Composing

/-- The refined statement is put together from the normalized parts: its held
text is theirs, and its columns are theirs, each as far behind as there is held
text before its part. Nothing is left to refine in it. -/
theorem refine_composes {dialect : Dialect} {d : Declaration}
    {normal : Part → Statement} (hsql : d.kind.isSql = true)
    (hclean : ∀ part ∈ d.parts, part.Clean) (hnormal : ∀ part ∈ d.parts,
      (Statement.raw d.id d.kind part.text []).normalize dialect =
      .ok (normal part))
    (hparts : ∀ part ∈ d.parts.tail, OpensBlank part.text.toList) (used : Nat) :
    ∃ s, (d.build dialect used).1 = .ok s ∧ ∀ presence : Statement.Presence,
      let kept := d.parts.filter (Part.stays (Statement.wants presence))
      ∃ refined, s.refine dialect presence = .ok refined ∧
        refined.held = String.join (kept.map fun part => (normal part).held) ∧
        refined.columns = placed 0 (kept.map normal) ∧
        ∀ other, refined.refine dialect other = .ok refined := by
  have hapart : ∀ part ∈ d.parts.tail, OpensApart part.text.toList :=
    fun part hmem => (hparts part hmem).opensApart
  have hlegible : Legible used d.parts := legible_of_opensApart hapart
  have hreads := items_spliced_of_normal hnormal hapart
  have hall (all : Bool) :
      fault (spliced (fun _ _ => all) d.parts).toList = none := by
    obtain ⟨template, htemplate, -⟩ := hreads fun _ _ => all
    exact fault_eq_none_iff.mpr ⟨template, htemplate⟩
  obtain ⟨s, hbuild⟩ :=
    (exists_build_iff dialect hclean hlegible).mpr ⟨hsql, hall⟩
  have hassembled := assembled_of_build hbuild
  refine ⟨s, hbuild, fun presence => ?_⟩
  obtain ⟨template, htemplate, hheld, hcolumns⟩ :=
    hreads (Statement.wants presence)
  have hrefine : s.refine dialect presence = .ok _ :=
    (hassembled.refine_eq_ok_iff hclean hlegible).mpr ⟨template, htemplate, rfl⟩
  exact ⟨_, hrefine, hheld, hcolumns 0,
    hassembled.refine_refine hclean hlegible hrefine⟩

/-- The first part holds a character of two bytes. -/
theorem refine_composes_behind_multibyte_text :
    let d : Declaration :=
      ⟨"q", .update,
        [.sql "é = :a", .clause "k" " OR b::int IN (:b[])" .present]⟩
    let normal : Part → Statement
      | .sql text =>
          ⟨"q", .update, text, [], [⟨"a", 6, .single⟩], "é = ?", "é = @p1"⟩
      | .clause _ fragment _ => ⟨"q", .update, fragment, [], [⟨"b", 16, .list⟩],
          " OR b::int IN (?)", " OR b::int IN (@p1)"⟩
    (∀ part ∈ d.parts,
      (Statement.raw d.id d.kind part.text []).normalize .atP =
        .ok (normal part)) ∧
    ∃ s refined, (d.build .atP 9).1 = .ok s ∧
    s.refine .atP (some ["k"]) = .ok refined ∧
      refined.held = "é = ? OR b::int IN (?)" ∧
      refined.columns = [⟨"a", 6, .single⟩, ⟨"b", 22, .list⟩] := by
  intro d normal
  have hnormal : ∀ part ∈ d.parts,
      (Statement.raw d.id d.kind part.text []).normalize .atP =
        .ok (normal part) := by
    rw [List.forall_mem_cons, List.forall_mem_singleton]
    refine ⟨Statement.normalize_eq_ok_iff.mpr
        ⟨"é = ".toList.map .plain ++ [.slot ['a'] .single], ?_, by decide⟩,
      Statement.normalize_eq_ok_iff.mpr
        ⟨" OR b".toList.map .plain ++ .cast :: ("int IN (".toList.map .plain ++
          [.slot ['b'] .list, .plain ')']), ?_, by decide⟩⟩
    · exact items_eq_ok_iff.mpr ⟨by decide, by decide⟩
    · exact items_eq_ok_iff.mpr ⟨by decide, by decide⟩
  obtain ⟨s, hbuild, hrefine⟩ :=
    refine_composes rfl (by decide : ∀ part ∈ d.parts, part.Clean) hnormal
      (by decide) 9
  obtain ⟨refined, hrefined, hheld, hcolumns, -⟩ := hrefine (some ["k"])
  exact ⟨hnormal, s, refined, hbuild, hrefined, hheld, hcolumns⟩

end Declaration

end NamedSql
