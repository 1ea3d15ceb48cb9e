import RowStore.Proofs.Statement.Reading
import RowStore.Proofs.Text.Pieces

/-!
Which statements are read back from their written form.

A statement is, unless its written form has a cut with a longer leading operand. Creations,
deletions and selections without a clause have no such cut. An insertion has one if its values can
be cut where columns end, and a selection if its clause can. The clause of a selection from a table
called `from` can also make such a place together with that name.
-/

namespace RowStore.Statement

open Text

theorem isCut_render_iff {statement other : Statement} :
    IsCut statement.render other ↔
      other.Admissible ∧ other.kind = statement.kind ∧ other.body = statement.body := by
  constructor
  · intro hcut
    have htext := hcut.toList_eq
    rw [toList_render] at htext
    have hkind := keyword_append_inj htext
    rw [hkind] at htext
    exact ⟨hcut.admissible, hkind.symm, (List.append_cancel_left htext).symm⟩
  · rintro ⟨hadmissible, hkind, hbody⟩
    refine isCut_of_toList hadmissible ?_
    rw [toList_render, hkind, hbody]

theorem parse_render_eq_iff {statement : Statement} (hadmissible : statement.Admissible) :
    parse statement.render = some statement ↔
      ∀ other : Statement, other.Admissible → other.kind = statement.kind →
        other.body = statement.body → other.leading.length ≤ statement.leading.length := by
  rw [parse_eq_some_iff]
  constructor
  · rintro ⟨-, hlongest⟩ other hother hkind hbody
    exact hlongest other (isCut_render_iff.mpr ⟨hother, hkind, hbody⟩)
  · intro hlongest
    refine ⟨⟨hadmissible, rfl⟩, fun other hcut => ?_⟩
    obtain ⟨hother, hkind, hbody⟩ := isCut_render_iff.mp hcut
    exact hlongest other hother hkind hbody

theorem isOperand_joinItems {list : List String} (hlist : list ≠ [])
    (hitems : ∀ item ∈ list, IsOperand item) : IsOperand (joinItems list) where
  nonempty := by
    intro hempty
    have hjoin : join ", ".toList (list.map String.toList) = [] :=
      String.toList_ofList.symm.trans (String.toList_eq_nil_iff.mpr hempty)
    cases list with
    | nil => exact hlist rfl
    | cons item list =>
        have hitem := (hitems item List.mem_cons_self).toList_ne_nil
        cases list <;> simp [join, hitem] at hjoin
  one_line := not_mem_joinItems (by decide) fun item hitem => (hitems item hitem).one_line

theorem parse_render_createTable {name definitions : String} (hname : IsName name)
    (hdefinitions : IsOperand definitions) :
    parse (createTable name definitions).render = some (createTable name definitions) := by
  have hadmissible : (createTable name definitions).Admissible := ⟨hname, hdefinitions⟩
  refine (parse_render_eq_iff hadmissible).mpr fun other hother hkind hbody => ?_
  cases other <;> simp only [kind, reduceCtorEq] at hkind
  obtain ⟨-, hrest⟩ := name_append_inj hother.1 hname (head_opening _) (head_opening _) hbody
  have hsame := List.append_cancel_right (List.append_cancel_left hrest)
  exact Nat.le_of_eq (congrArg String.length (String.toList_inj.mp hsame))

theorem parse_render_delete {name : String} {clause : Option String} (hname : IsName name)
    (hclause : ∀ text ∈ clause, IsOperand text) :
    parse (delete name clause).render = some (delete name clause) := by
  have hadmissible : (delete name clause).Admissible := ⟨hname, hclause⟩
  refine (parse_render_eq_iff hadmissible).mpr fun other hother hkind hbody => ?_
  cases other <;> simp only [kind, reduceCtorEq] at hkind
  obtain ⟨-, hrest⟩ := name_append_inj hother.1 hname head_clauseBody head_clauseBody hbody
  exact Nat.le_of_eq (congrArg (fun clause => (clause.getD "").length) (clauseBody_inj hrest))

/-! Texts that are cut in two ways. -/

theorem exists_more_of_length_lt {first second rest other : List Char}
    (h : first ++ rest = second ++ other) (hlength : second.length < first.length) :
    ∃ more ≠ [], first = second ++ more ∧ other = more ++ rest := by
  rcases List.append_eq_append_iff.mp h with ⟨more, hsecond, -⟩ | ⟨more, hfirst, hother⟩
  · rw [hsecond, List.length_append] at hlength
    omega
  · refine ⟨more, ?_, hfirst, hother⟩
    rintro rfl
    rw [hfirst, List.append_nil] at hlength
    omega

theorem infix_dropLast_iff {separator text : List Char} (hseparator : separator ≠ []) :
    separator <:+: text.dropLast ↔
      ∃ before after, after ≠ [] ∧ text = before ++ (separator ++ after) := by
  constructor
  · rintro ⟨before, after, htext⟩
    have hnonempty : text ≠ [] := by
      rintro rfl
      simp [hseparator] at htext
    refine ⟨before, after ++ [text.getLast hnonempty], by simp, ?_⟩
    have hwhole := List.dropLast_concat_getLast hnonempty
    rw [← htext] at hwhole
    simpa using hwhole.symm
  · rintro ⟨before, after, hafter, rfl⟩
    refine ⟨before, after.dropLast, ?_⟩
    rw [List.dropLast_append_of_ne_nil (by simp [hseparator]),
      List.dropLast_append_of_ne_nil hafter, List.append_assoc]

/-! Insertions. -/

/-- Columns that go on behind their end go on into the values. -/
theorem values_of_longer_columns {more values others : List Char} (hmore : more ≠ [])
    (h : ") values (".toList ++ values = more ++ (") values (".toList ++ others)) :
    ∃ before, values = before ++ (") values (".toList ++ others) := by
  cases more with
  | nil => exact absurd rfl hmore
  | cons c more =>
      obtain ⟨-, hrest⟩ := List.cons_eq_cons.mp h
      have hopening : ')' ∉ " values (".toList := by decide
      obtain ⟨between, -, hvalues⟩ := append_eq_append_cons hopening hrest
      exact ⟨between, hvalues⟩

theorem IsOperand.of_part {operand : String} {text : List Char} (hoperand : IsOperand operand)
    (htext : text ≠ []) (hfound : text <:+: operand.toList) : IsOperand (String.ofList text) :=
  isOperand_ofList htext fun hmem => hoperand.one_line (hfound.subset hmem)

theorem parse_render_insert_iff {name columns values : String} (hname : IsName name)
    (hcolumns : IsOperand columns) (hvalues : IsOperand values) :
    parse (insert name columns values).render = some (insert name columns values) ↔
      ¬ ") values (".toList <:+: values.toList.dropLast := by
  have hadmissible : (insert name columns values).Admissible := ⟨hname, hcolumns, hvalues⟩
  rw [parse_render_eq_iff hadmissible, infix_dropLast_iff (by decide)]
  constructor
  · -- Columns that go on to a later place to end make a longer reading, and the longest is taken.
    rintro hlongest ⟨before, after, hafter, hcut⟩
    let longer := columns.toList ++ (") values (".toList ++ before)
    have hlonger : IsOperand (String.ofList longer) := by
      refine isOperand_ofList (by simp [longer]) ?_
      have hbefore : '\n' ∉ before := fun hmem =>
        hvalues.one_line (hcut ▸ List.mem_append_left _ hmem)
      simp [longer, hcolumns.one_line, hbefore]
    have hother : IsOperand (String.ofList after) :=
      hvalues.of_part hafter ⟨before ++ ") values (".toList, [], by simp [hcut]⟩
    have hlength := hlongest (insert name (String.ofList longer) (String.ofList after))
      ⟨hname, hlonger, hother⟩ rfl (by simp [hcut, longer])
    simp only [leading, String.length_ofList, longer, List.length_append,
      String.length_toList] at hlength
    have hpositive : 0 < ") values (".length := by decide
    omega
  · intro hnone other hother hkind hbody
    cases other <;> simp only [kind, reduceCtorEq] at hkind
    rename_i target longer others
    refine Nat.not_lt.mp fun hlength => ?_
    obtain ⟨-, hrest⟩ := name_append_inj hother.1 hname (head_opening _) (head_opening _) hbody
    obtain ⟨more, hmore, -, hvalue⟩ := exists_more_of_length_lt (List.append_cancel_left hrest)
      (by simpa only [leading, String.length_toList] using hlength)
    rw [← List.append_assoc, ← List.append_assoc, ← List.append_assoc] at hvalue
    obtain ⟨before, hbefore⟩ := values_of_longer_columns hmore
      (by simpa using List.append_cancel_right hvalue)
    exact hnone ⟨before, others.toList, hother.2.2.toList_ne_nil, hbefore⟩

/-! Selections. -/

def sourceBody (name : String) (clause : Option String) : List Char :=
  " from ".toList ++ (name.toList ++ clauseBody clause)

theorem sourceBody_eq (name : String) (clause : Option String) :
    sourceBody name clause = " from ".toList ++ (name.toList ++ clauseBody clause) := rfl

theorem body_select_eq (columns name : String) (clause : Option String) :
    (select columns name clause).body = columns.toList ++ sourceBody name clause := rfl

theorem isOperand_of_mem_clause {text : List Char} {clause : Option String}
    (hclause : clause ≠ some "") (hline : '\n' ∉ text) (htext : clauseBody clause <:+ text) :
    ∀ operand ∈ clause, IsOperand operand := by
  rintro operand hoperand
  obtain rfl : clause = some operand := hoperand
  refine ⟨fun hempty => hclause (congrArg some hempty), fun hmem => hline (htext.subset ?_)⟩
  simp [hmem]

theorem parse_render_select_eq_iff {columns name : String} {clause : Option String}
    (hcolumns : IsOperand columns) (hname : IsName name)
    (hclause : ∀ operand ∈ clause, IsOperand operand) :
    parse (select columns name clause).render = some (select columns name clause) ↔
      ∀ more other inner, more ≠ [] → IsName other → inner ≠ some "" →
        sourceBody name clause ≠ more ++ sourceBody other inner := by
  have hadmissible : (select columns name clause).Admissible := ⟨hcolumns, hname, hclause⟩
  have hline : '\n' ∉ sourceBody name clause := by
    simp [sourceBody_eq, hname.one_line, newline_not_mem_clauseBody hclause]
  rw [parse_render_eq_iff hadmissible]
  constructor
  · intro hlongest more other inner hmore hother hinner hsource
    rw [hsource] at hline
    have hlonger : IsOperand (String.ofList (columns.toList ++ more)) := by
      refine isOperand_ofList (by simp [hmore]) ?_
      simp only [List.mem_append, hcolumns.one_line, false_or]
      exact fun hmem => hline (List.mem_append_left _ hmem)
    have hsuffix : clauseBody inner <:+ more ++ sourceBody other inner :=
      ⟨more ++ " from ".toList ++ other.toList, by simp [sourceBody_eq]⟩
    have hlength := hlongest (select (String.ofList (columns.toList ++ more)) other inner)
      ⟨hlonger, hother, isOperand_of_mem_clause hinner hline hsuffix⟩ rfl
      (by rw [body_select_eq, body_select_eq, hsource, String.toList_ofList, List.append_assoc])
    have hpositive := List.length_pos_iff.mpr hmore
    simp only [leading, String.length_ofList, List.length_append, String.length_toList] at hlength
    omega
  · intro hnone other hother hkind hbody
    cases other <;> simp only [kind, reduceCtorEq] at hkind
    rename_i longer target inner
    refine Nat.not_lt.mp fun hlength => ?_
    obtain ⟨more, hmore, -, hsource⟩ := exists_more_of_length_lt hbody
      (by simpa only [leading, String.length_toList] using hlength)
    refine hnone more target inner hmore hother.2.1 ?_ hsource
    rintro rfl
    exact (hother.2.2 "" rfl).nonempty rfl

theorem IsName.space_not_mem {name : String} (hname : IsName name) : ' ' ∉ name.toList :=
  fun hmem => absurd (hname.letters _ hmem).1 (by decide)

theorem isName_from : IsName "from" := ⟨by decide, by simp⟩

theorem isName_where : IsName "where" := ⟨by decide, by simp⟩

/-- Columns that go on behind their end go on to the space behind `from` or beyond the name. -/
theorem source_of_longer_columns {name : String} {more rest other : List Char}
    (hname : IsName name) (hmore : more ≠ [])
    (h : " from ".toList ++ (name.toList ++ rest) = more ++ (" from ".toList ++ other)) :
    name.toList ++ rest = "from ".toList ++ other ∨
      ∃ before, rest = before ++ (" from ".toList ++ other) := by
  cases more with
  | nil => exact absurd rfl hmore
  | cons c more =>
      obtain ⟨-, hrest⟩ := List.cons_eq_cons.mp h
      have hword : ' ' ∉ "from".toList := by decide
      obtain ⟨between, -, hspace⟩ := append_eq_append_cons hword hrest
      cases between with
      | nil => exact .inl (List.cons_eq_cons.mp hspace).2
      | cons d between =>
          obtain ⟨-, hname'⟩ := List.cons_eq_cons.mp hspace
          obtain ⟨before, -, hbefore⟩ := append_eq_append_cons hname.space_not_mem hname'
          exact .inr ⟨before, hbefore⟩

theorem parse_render_select {columns name : String} (hcolumns : IsOperand columns)
    (hname : IsName name) :
    parse (select columns name none).render = some (select columns name none) := by
  refine (parse_render_select_eq_iff hcolumns hname (by simp)).mpr ?_
  intro more other inner hmore hother hinner hsource
  rcases source_of_longer_columns hname hmore hsource with hfrom | ⟨before, hbefore⟩
  · rw [clauseBody_none, List.append_nil] at hfrom
    exact hname.space_not_mem (by simp [hfrom])
  · simp at hbefore

/-- The name before a clause and the beginning of the clause are a place where columns end if the
one is `from` and the other `where`. -/
theorem clause_of_from {name other clause : String} {inner : Option String}
    (hname : IsName name) (hother : IsName other)
    (h : name.toList ++ clauseBody (some clause) =
      "from ".toList ++ (other.toList ++ clauseBody inner)) :
    name = "from" ∧ ∃ text, inner = some text ∧ clause = "where " ++ text := by
  have hspace : ∀ c ∈ (' ' :: (other.toList ++ clauseBody inner)).head?,
      isNameLetter c = false := by simp [isNameLetter]
  obtain ⟨hfrom, hrest⟩ := name_append_inj hname isName_from head_clauseBody hspace h
  have hbody : "where".toList ++ ' ' :: clause.toList = other.toList ++ clauseBody inner :=
    (List.cons_eq_cons.mp hrest).2
  have hhead : ∀ c ∈ (' ' :: clause.toList).head?, isNameLetter c = false := by
    simp [isNameLetter]
  obtain ⟨-, hclause⟩ := name_append_inj isName_where hother hhead head_clauseBody hbody
  cases inner with
  | none => simp at hclause
  | some text =>
      refine ⟨hfrom, text, rfl, String.toList_inj.mp ?_⟩
      rw [String.toList_append]
      exact (List.cons_eq_cons.mp hclause).2

/-- A place where columns end, in what follows a name, is in the clause or just before it. -/
theorem suffix_of_clauseBody {clause : String} {before other : List Char}
    (h : clauseBody (some clause) = before ++ (" from ".toList ++ other)) :
    " from ".toList ++ other <:+ ' ' :: clause.toList := by
  cases before with
  | nil => simp at h
  | cons c before =>
      have hrest : "where".toList ++ ' ' :: clause.toList =
          before ++ ' ' :: ("from ".toList ++ other) := (List.cons_eq_cons.mp h).2
      have hword : ' ' ∉ "where".toList := by decide
      obtain ⟨between, -, hclause⟩ := append_eq_append_cons hword hrest
      exact ⟨between, hclause.symm⟩

theorem toList_source (name : String) (clause : Option String) :
    (" from " ++ name ++ renderClause clause).toList = sourceBody name clause := by
  rw [String.toList_append, String.toList_append, toList_renderClause, List.append_assoc]
  rfl

theorem parse_render_select_iff {columns name clause : String} (hcolumns : IsOperand columns)
    (hname : IsName name) (hclause : IsOperand clause) :
    parse (select columns name (some clause)).render = some (select columns name (some clause)) ↔
      ¬ (∃ other inner, IsName other ∧ inner ≠ some "" ∧
          (" from " ++ other ++ renderClause inner).toList <:+ (" " ++ clause).toList) ∧
        ¬ (name = "from" ∧ ∃ inner, inner ≠ "" ∧ clause = "where " ++ inner) := by
  have hoperands : ∀ operand ∈ some clause, IsOperand operand := by
    rintro operand hoperand
    obtain rfl : clause = operand := Option.some.inj hoperand
    exact hclause
  have hspaced : (" " ++ clause).toList = ' ' :: clause.toList := by
    rw [String.toList_append]
    rfl
  rw [parse_render_select_eq_iff hcolumns hname hoperands]
  simp only [toList_source, hspaced]
  constructor
  · intro hnone
    constructor
    · rintro ⟨other, inner, hother, hinner, before, hbefore⟩
      refine hnone (" from ".toList ++ name.toList ++ " where".toList ++ before) other inner
        (by simp) hother hinner ?_
      simp [sourceBody_eq, ← hbefore]
    · rintro ⟨rfl, inner, hinner, rfl⟩
      refine hnone " from".toList "where" (some inner) (by decide) isName_where (by simpa) ?_
      simp [sourceBody_eq]
  · rintro ⟨hsuffix, hfrom⟩ more other inner hmore hother hinner hsource
    rcases source_of_longer_columns hname hmore hsource with hname' | ⟨before, hbefore⟩
    · obtain ⟨rfl, text, rfl, rfl⟩ := clause_of_from hname hother hname'
      exact hfrom ⟨rfl, text, by simpa using hinner, rfl⟩
    · exact hsuffix ⟨other, inner, hother, hinner, suffix_of_clauseBody hbefore⟩

/-- Of the statements that can be written, all creations, deletions and selections without a clause
are read back from their written form. An insertion is read back if its values, but for their last
character, do not hold what stands between columns and values. A selection with a clause is read
back if the clause does not end in a source, where the space before the clause may be the first of
it, and is not itself a clause with its keyword behind a table called `from`. -/
theorem parse_render_iff {name : String} (hname : IsName name) :
    (∀ definitions, IsOperand definitions →
      parse (createTable name definitions).render = some (createTable name definitions)) ∧
    (∀ clause, (∀ operand ∈ clause, IsOperand operand) →
      parse (delete name clause).render = some (delete name clause)) ∧
    (∀ columns, IsOperand columns →
      parse (select columns name none).render = some (select columns name none)) ∧
    (∀ columns values, IsOperand columns → IsOperand values →
      (parse (insert name columns values).render = some (insert name columns values) ↔
        ¬ ") values (".toList <:+: values.toList.dropLast)) ∧
    ∀ columns clause, IsOperand columns → IsOperand clause →
      (parse (select columns name (some clause)).render =
          some (select columns name (some clause)) ↔
        ¬ (∃ other inner, IsName other ∧ inner ≠ some "" ∧
            (" from " ++ other ++ renderClause inner).toList <:+ (" " ++ clause).toList) ∧
          ¬ (name = "from" ∧ ∃ inner, inner ≠ "" ∧ clause = "where " ++ inner)) := by
  refine ⟨fun definitions => parse_render_createTable hname,
    fun clause => parse_render_delete hname,
    fun columns hcolumns => parse_render_select hcolumns hname, ?_, ?_⟩
  · exact fun columns values => parse_render_insert_iff hname
  · exact fun columns clause hcolumns => parse_render_select_iff hcolumns hname

/-- A table called `from`: values that would have to end where they begin are read back, values and
clauses that hold a shorter one are not, and neither is a clause that the name becomes a part of. -/
theorem parse_render_iff_of_from :
    IsName "from" ∧
      parse (createTable "from" "a b) (c").render = some (createTable "from" "a b) (c") ∧
      parse (insert "from" "a) values (b" "c) values (").render =
        some (insert "from" "a) values (b" "c) values (") ∧
      parse (insert "from" "a" "b) values (c").render ≠
        some (insert "from" "a" "b) values (c") ∧
      parse (select "a" "from" (some "from b where c")).render ≠
        some (select "a" "from" (some "from b where c")) ∧
      parse (select "a" "from" (some "where b = c")).render ≠
        some (select "a" "from" (some "where b = c")) := by
  obtain ⟨hcreate, -, -, hinsert, hselect⟩ := parse_render_iff isName_from
  refine ⟨isName_from, hcreate _ ⟨by decide, by decide⟩, ?_, ?_, ?_, ?_⟩
  · refine (hinsert _ _ ⟨by decide, by decide⟩ ⟨by decide, by decide⟩).mpr ?_
    decide +kernel
  · intro hparse
    refine (hinsert _ _ ⟨by decide, by decide⟩ ⟨by decide, by decide⟩).mp hparse ?_
    exact ⟨['b'], [], rfl⟩
  · intro hparse
    refine ((hselect _ _ ⟨by decide, by decide⟩ ⟨by decide, by decide⟩).mp hparse).1 ?_
    exact ⟨"b", some "c", ⟨by decide, by simp⟩, by decide, [], rfl⟩
  · intro hparse
    refine ((hselect _ _ ⟨by decide, by decide⟩ ⟨by decide, by decide⟩).mp hparse).2 ?_
    exact ⟨rfl, "b = c", by decide, rfl⟩

end RowStore.Statement
