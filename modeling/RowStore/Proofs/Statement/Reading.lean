import RowStore.Proofs.Statement.Written

namespace RowStore.Statement

open Text

/-! Names and operands. -/

theorem isNameLetter_iff {c : Char} : isNameLetter c = true ↔ 'a' ≤ c ∧ c ≤ 'z' := by
  simp [isNameLetter]

theorem isName_ofList {name : List Char} :
    IsName (String.ofList name) ↔ name ≠ [] ∧ ∀ c ∈ name, isNameLetter c = true := by
  constructor
  · rintro ⟨hnonempty, hletters⟩
    rw [String.toList_ofList] at hletters
    exact ⟨fun h => hnonempty (String.ofList_eq_empty_iff.mpr h),
      fun c hc => isNameLetter_iff.mpr (hletters c hc)⟩
  · rintro ⟨hnonempty, hletters⟩
    refine ⟨fun h => hnonempty (String.ofList_eq_empty_iff.mp h), ?_⟩
    rw [String.toList_ofList]
    exact fun c hc => isNameLetter_iff.mp (hletters c hc)

theorem name?_sound {text name rest : List Char} (h : name? text = some (name, rest)) :
    text = name ++ rest ∧ IsName (String.ofList name) := by
  unfold name? at h
  split at h
  · contradiction
  · rename_i hnonempty
    cases h
    refine ⟨List.takeWhile_append_dropWhile.symm, isName_ofList.mpr ⟨hnonempty, ?_⟩⟩
    exact List.all_eq_true.mp List.all_takeWhile

theorem name?_append {name rest : List Char} (hname : IsName (String.ofList name))
    (hrest : ∀ c ∈ rest.head?, isNameLetter c = false) :
    name? (name ++ rest) = some (name, rest) := by
  obtain ⟨hnonempty, hletters⟩ := isName_ofList.mp hname
  have hstop : rest.takeWhile isNameLetter = [] ∧ rest.dropWhile isNameLetter = rest := by
    cases rest with
    | nil => exact ⟨rfl, rfl⟩
    | cons c rest => simp [hrest c rfl]
  unfold name?
  rw [List.takeWhile_append_of_pos hletters, List.dropWhile_append_of_pos hletters, hstop.1,
    hstop.2, List.append_nil, if_neg hnonempty]

theorem operand?_eq_some_iff {text operand : List Char} :
    operand? text = some operand ↔ operand = text ∧ text ≠ [] := by
  cases text with
  | nil => simp [operand?]
  | cons c text => simp [operand?, eq_comm]

theorem closed?_eq_some_iff {text operand : List Char} :
    closed? text = some operand ↔ text = operand ++ [')'] ∧ operand ≠ [] := by
  unfold closed?
  split
  · rename_i hlast
    obtain ⟨front, rfl⟩ := List.getLast?_eq_some_iff.mp hlast
    rw [List.dropLast_concat, operand?_eq_some_iff, List.append_cancel_right_eq]
    constructor
    · rintro ⟨rfl, hfront⟩
      exact ⟨rfl, hfront⟩
    · rintro ⟨rfl, hfront⟩
      exact ⟨rfl, hfront⟩
  · rename_i hlast
    constructor
    · intro h
      contradiction
    · rintro ⟨rfl, _⟩
      exact absurd (List.getLast?_concat ..) hlast

theorem clause?_eq_some_iff {text : List Char} {clause : Option (List Char)} :
    clause? text = some clause ↔
      text = clauseBody (clause.map String.ofList) ∧ ∀ operand ∈ clause, operand ≠ [] := by
  cases text with
  | nil =>
      cases clause with
      | none => simp [clause?]
      | some operand => simp [clause?]
  | cons c text =>
      simp only [clause?, Option.bind_eq_bind, Option.bind_eq_some_iff, Option.pure_def,
        Option.some.injEq, after?_eq_some_iff, operand?_eq_some_iff]
      constructor
      · rintro ⟨operand, htext, _, ⟨rfl, hoperand⟩, rfl⟩
        rw [htext]
        simpa using hoperand
      · rintro ⟨htext, hclause⟩
        cases clause with
        | none => simp at htext
        | some operand =>
            refine ⟨operand, ?_, operand, ⟨rfl, hclause operand rfl⟩, rfl⟩
            rw [htext]
            simp

theorem head_clauseBody {clause : Option String} :
    ∀ c ∈ (clauseBody clause).head?, isNameLetter c = false := by
  cases clause with
  | none => simp
  | some clause => simp [isNameLetter]

theorem source?_eq_some_iff {text name : List Char} {clause : Option (List Char)} :
    source? text = some (name, clause) ↔
      text = name ++ clauseBody (clause.map String.ofList) ∧
        IsName (String.ofList name) ∧ ∀ operand ∈ clause, operand ≠ [] := by
  simp only [source?, Option.bind_eq_bind, Option.bind_eq_some_iff, Option.pure_def,
    Option.some.injEq, Prod.mk.injEq, clause?_eq_some_iff]
  constructor
  · rintro ⟨⟨_, rest⟩, hname, _, ⟨hrest, hclause⟩, rfl, rfl⟩
    obtain ⟨rfl, hletters⟩ := name?_sound hname
    exact ⟨congrArg _ hrest, hletters, hclause⟩
  · rintro ⟨rfl, hname, hclause⟩
    exact ⟨_, name?_append hname head_clauseBody, clause, ⟨rfl, hclause⟩, rfl, rfl⟩

/-! The longest front. -/

section Longest

variable {α : Type} {tail? : List Char → Option α}

theorem longest?_sound {text front : List Char} {read : α}
    (h : longest? tail? text = some (front, read)) :
    front ≠ [] ∧ ∃ rest, text = front ++ rest ∧ tail? rest = some read := by
  induction text generalizing front with
  | nil => simp [longest?] at h
  | cons c text ih =>
      unfold longest? at h
      split at h
      · rename_i longer other hlonger
        cases h
        obtain ⟨_, rest, rfl, hread⟩ := ih hlonger
        exact ⟨List.cons_ne_nil _ _, rest, rfl, hread⟩
      · obtain ⟨other, hread, hfront⟩ := Option.map_eq_some_iff.mp h
        cases hfront
        exact ⟨List.cons_ne_nil _ _, text, rfl, hread⟩

/-- No front with a readable rest is longer than the one that is found. -/
theorem longest?_complete (tail? : List Char → Option α) {front rest : List Char} {read : α}
    (hfront : front ≠ []) (hread : tail? rest = some read) :
    ∃ longer other, longest? tail? (front ++ rest) = some (longer, other) ∧
      front.length ≤ longer.length := by
  induction front with
  | nil => exact absurd rfl hfront
  | cons c front ih =>
      rw [List.cons_append, longest?]
      split
      · rename_i longer other hlonger
        refine ⟨c :: longer, other, rfl, ?_⟩
        cases front with
        | nil => simp
        | cons d front =>
            obtain ⟨found, _, hfound, hlength⟩ := ih (List.cons_ne_nil _ _)
            rw [hfound] at hlonger
            cases hlonger
            simpa using hlength
      · rename_i hnone
        cases front with
        | nil => exact ⟨[c], read, by simp [hread], Nat.le_refl _⟩
        | cons d front =>
            obtain ⟨_, _, hfound, _⟩ := ih (List.cons_ne_nil _ _)
            rw [hfound] at hnone
            contradiction

end Longest

/-! The reader of each kind. -/

def read? : Kind → List Char → Option Statement
  | .createTable => createTable?
  | .insert => insert?
  | .select => select?
  | .delete => delete?

theorem isOperand_ofList {operand : List Char} (hnonempty : operand ≠ [])
    (hline : '\n' ∉ operand) : IsOperand (String.ofList operand) :=
  ⟨fun h => hnonempty (String.ofList_eq_empty_iff.mp h), by rwa [String.toList_ofList]⟩

theorem IsOperand.toList_ne_nil {operand : String} (h : IsOperand operand) :
    operand.toList ≠ [] :=
  fun hempty => h.nonempty (String.toList_eq_nil_iff.mp hempty)

theorem isCut_of_toList {text : String} {statement : Statement}
    (hadmissible : statement.Admissible)
    (htext : text.toList = (keyword statement.kind).toList ++ statement.body) :
    IsCut text statement :=
  ⟨hadmissible, String.toList_inj.mp ((toList_render statement).trans htext.symm)⟩

theorem IsCut.toList_eq {text : String} {statement : Statement} (hcut : IsCut text statement) :
    text.toList = (keyword statement.kind).toList ++ statement.body := by
  rw [← toList_render, hcut.render_eq]

theorem createTable?_sound {text : String} {statement : Statement} (hline : '\n' ∉ text.toList)
    (h : createTable? text.toList = some statement) :
    IsCut text statement ∧ statement.kind = .createTable := by
  simp only [createTable?, Option.bind_eq_bind, Option.bind_eq_some_iff, Option.pure_def,
    Option.some.injEq, after?_eq_some_iff, closed?_eq_some_iff] at h
  obtain ⟨_, htext, ⟨name, _⟩, hname, _, rfl, definitions, ⟨rfl, hnonempty⟩, rfl⟩ := h
  obtain ⟨rfl, hletters⟩ := name?_sound hname
  rw [htext] at hline
  refine ⟨isCut_of_toList ⟨hletters, isOperand_ofList hnonempty ?_⟩ ?_, rfl⟩
  · intro hmem
    apply hline
    simp [hmem]
  · simpa [kind, keyword] using htext

theorem insert?_sound {text : String} {statement : Statement} (hline : '\n' ∉ text.toList)
    (h : insert? text.toList = some statement) :
    IsCut text statement ∧ statement.kind = .insert := by
  simp only [insert?, Option.bind_eq_bind, Option.bind_eq_some_iff, Option.pure_def,
    Option.some.injEq, after?_eq_some_iff] at h
  obtain ⟨_, htext, ⟨name, _⟩, hname, _, rfl, ⟨columns, values⟩, hlongest, rfl⟩ := h
  obtain ⟨rfl, hletters⟩ := name?_sound hname
  obtain ⟨hcolumns, _, rfl, hrest⟩ := longest?_sound hlongest
  simp only [Option.bind_eq_some_iff, after?_eq_some_iff, closed?_eq_some_iff] at hrest
  obtain ⟨_, rfl, rfl, hvalues⟩ := hrest
  rw [htext] at hline
  refine ⟨isCut_of_toList
    ⟨hletters, isOperand_ofList hcolumns ?_, isOperand_ofList hvalues ?_⟩ ?_, rfl⟩
  · intro hmem
    apply hline
    simp [hmem]
  · intro hmem
    apply hline
    simp [hmem]
  · simpa [kind, keyword] using htext

theorem select?_sound {text : String} {statement : Statement} (hline : '\n' ∉ text.toList)
    (h : select? text.toList = some statement) :
    IsCut text statement ∧ statement.kind = .select := by
  simp only [select?, Option.bind_eq_bind, Option.bind_eq_some_iff, Option.pure_def,
    Option.some.injEq, after?_eq_some_iff] at h
  obtain ⟨_, htext, ⟨columns, name, clause⟩, hlongest, rfl⟩ := h
  obtain ⟨hcolumns, _, rfl, hrest⟩ := longest?_sound hlongest
  simp only [Option.bind_eq_some_iff, after?_eq_some_iff] at hrest
  obtain ⟨_, rfl, hsource⟩ := hrest
  obtain ⟨rfl, hletters, hclause⟩ := source?_eq_some_iff.mp hsource
  rw [htext] at hline
  refine ⟨isCut_of_toList ⟨isOperand_ofList hcolumns ?_, hletters, ?_⟩ ?_, rfl⟩
  · intro hmem
    apply hline
    simp [hmem]
  · intro operand hoperand
    obtain ⟨operand, rfl, rfl⟩ := Option.map_eq_some_iff.mp hoperand
    refine isOperand_ofList (hclause operand rfl) fun hmem => hline ?_
    simp [hmem]
  · simpa [kind, keyword] using htext

theorem delete?_sound {text : String} {statement : Statement} (hline : '\n' ∉ text.toList)
    (h : delete? text.toList = some statement) :
    IsCut text statement ∧ statement.kind = .delete := by
  simp only [delete?, Option.bind_eq_bind, Option.bind_eq_some_iff, Option.pure_def,
    Option.some.injEq, after?_eq_some_iff] at h
  obtain ⟨_, htext, ⟨name, clause⟩, hsource, rfl⟩ := h
  obtain ⟨rfl, hletters, hclause⟩ := source?_eq_some_iff.mp hsource
  rw [htext] at hline
  refine ⟨isCut_of_toList ⟨hletters, ?_⟩ ?_, rfl⟩
  · intro operand hoperand
    obtain ⟨operand, rfl, rfl⟩ := Option.map_eq_some_iff.mp hoperand
    refine isOperand_ofList (hclause operand rfl) fun hmem => hline ?_
    simp [hmem]
  · simpa [kind, keyword] using htext

theorem read?_sound {text : String} {kind : Kind} {statement : Statement}
    (hline : '\n' ∉ text.toList) (h : read? kind text.toList = some statement) :
    IsCut text statement ∧ statement.kind = kind := by
  cases kind with
  | createTable => exact createTable?_sound hline h
  | insert => exact insert?_sound hline h
  | select => exact select?_sound hline h
  | delete => exact delete?_sound hline h

theorem head_opening (rest : List Char) :
    ∀ c ∈ (" (".toList ++ rest).head?, isNameLetter c = false := by
  simp [isNameLetter]

theorem name?_toList_append {name : String} {rest : List Char} (hname : IsName name)
    (hrest : ∀ c ∈ rest.head?, isNameLetter c = false) :
    name? (name.toList ++ rest) = some (name.toList, rest) :=
  name?_append (by rwa [String.ofList_toList]) hrest

theorem source?_append {name : String} {clause : Option String} (hname : IsName name)
    (hclause : ∀ operand ∈ clause, IsOperand operand) :
    source? (name.toList ++ clauseBody clause) =
      some (name.toList, clause.map String.toList) := by
  rw [source?_eq_some_iff, String.ofList_toList, Option.map_map]
  refine ⟨?_, hname, ?_⟩
  · cases clause with
    | none => rfl
    | some operand => simp [Function.comp_def]
  · intro operand hoperand
    obtain ⟨operand, hmem, rfl⟩ := Option.map_eq_some_iff.mp hoperand
    exact (hclause operand hmem).toList_ne_nil

theorem read?_complete {text : String} {statement : Statement} (hcut : IsCut text statement) :
    ∃ found, read? statement.kind text.toList = some found ∧
      statement.leading.length ≤ found.leading.length := by
  rw [hcut.toList_eq]
  cases statement with
  | createTable name definitions =>
      obtain ⟨hname, hdefinitions⟩ := hcut.admissible
      refine ⟨createTable name definitions, ?_, Nat.le_refl _⟩
      simp only [read?, kind, keyword, createTable?, Option.bind_eq_bind,
        Option.bind_eq_some_iff, Option.pure_def, Option.some.injEq, after?_eq_some_iff,
        closed?_eq_some_iff, body_createTable]
      exact ⟨_, rfl, _, name?_toList_append hname (head_opening _), _, rfl, definitions.toList,
        ⟨rfl, hdefinitions.toList_ne_nil⟩, by simp only [String.ofList_toList]⟩
  | insert name columns values =>
      obtain ⟨hname, hcolumns, hvalues⟩ := hcut.admissible
      have hread : (do closed? (← after? ") values (".toList
          (") values (".toList ++ (values.toList ++ [')'])))) = some values.toList := by
        simp only [Option.bind_eq_bind, Option.bind_eq_some_iff, after?_eq_some_iff,
          closed?_eq_some_iff]
        exact ⟨_, rfl, rfl, hvalues.toList_ne_nil⟩
      obtain ⟨longer, other, hlongest, hlength⟩ :=
        longest?_complete (fun rest => do closed? (← after? ") values (".toList rest))
          hcolumns.toList_ne_nil hread
      refine ⟨insert name (String.ofList longer) (String.ofList other), ?_, ?_⟩
      · simp only [read?, kind, keyword, insert?, Option.bind_eq_bind,
          Option.bind_eq_some_iff, Option.pure_def, Option.some.injEq, after?_eq_some_iff,
          body_insert]
        exact ⟨_, rfl, _, name?_toList_append hname (head_opening _), _, rfl, _, hlongest,
          by simp only [String.ofList_toList]⟩
      · simpa [leading, String.length_toList] using hlength
  | select columns name clause =>
      obtain ⟨hcolumns, hname, hclause⟩ := hcut.admissible
      have hread : (do source? (← after? " from ".toList
          (" from ".toList ++ (name.toList ++ clauseBody clause)))) =
            some (name.toList, clause.map String.toList) := by
        simp only [Option.bind_eq_bind, Option.bind_eq_some_iff, after?_eq_some_iff]
        exact ⟨_, rfl, source?_append hname hclause⟩
      obtain ⟨longer, other, hlongest, hlength⟩ :=
        longest?_complete (fun rest => do source? (← after? " from ".toList rest))
          hcolumns.toList_ne_nil hread
      refine ⟨select (String.ofList longer) (String.ofList other.1)
        (other.2.map String.ofList), ?_, ?_⟩
      · simp only [read?, kind, keyword, select?, Option.bind_eq_bind,
          Option.bind_eq_some_iff, Option.pure_def, Option.some.injEq, after?_eq_some_iff,
          body_select]
        exact ⟨_, rfl, _, hlongest, rfl⟩
      · simpa [leading, String.length_toList] using hlength
  | delete name clause =>
      obtain ⟨hname, hclause⟩ := hcut.admissible
      refine ⟨delete name clause, ?_, Nat.le_refl _⟩
      simp only [read?, kind, keyword, delete?, Option.bind_eq_bind,
        Option.bind_eq_some_iff, Option.pure_def, Option.some.injEq, after?_eq_some_iff,
        body_delete]
      refine ⟨_, rfl, _, source?_append hname hclause, ?_⟩
      cases clause with
      | none => simp only [String.ofList_toList, Option.map_none]
      | some operand => simp only [String.ofList_toList, Option.map_some]

/-! Texts as a whole. -/

theorem IsName.one_line {name : String} (hname : IsName name) : '\n' ∉ name.toList :=
  fun hmem => absurd (hname.letters _ hmem).1 (by decide)

theorem newline_not_mem_clauseBody {clause : Option String}
    (hclause : ∀ operand ∈ clause, IsOperand operand) : '\n' ∉ clauseBody clause := by
  cases clause with
  | none => simp
  | some operand => simpa using (hclause operand rfl).one_line

theorem IsCut.one_line {text : String} {statement : Statement} (hcut : IsCut text statement) :
    '\n' ∉ text.toList := by
  rw [hcut.toList_eq]
  cases statement with
  | createTable name definitions =>
      obtain ⟨hname, hdefinitions⟩ := hcut.admissible
      simp [kind, keyword, hname.one_line, hdefinitions.one_line]
  | insert name columns values =>
      obtain ⟨hname, hcolumns, hvalues⟩ := hcut.admissible
      simp [kind, keyword, hname.one_line, hcolumns.one_line, hvalues.one_line]
  | select columns name clause =>
      obtain ⟨hcolumns, hname, hclause⟩ := hcut.admissible
      simp [kind, keyword, hcolumns.one_line, hname.one_line,
        newline_not_mem_clauseBody hclause]
  | delete name clause =>
      obtain ⟨hname, hclause⟩ := hcut.admissible
      simp [kind, keyword, hname.one_line, newline_not_mem_clauseBody hclause]

theorem parse_eq_some_iff_read? {text : String} {statement : Statement} :
    parse text = some statement ↔
      '\n' ∉ text.toList ∧ read? statement.kind text.toList = some statement := by
  by_cases hline : '\n' ∈ text.toList
  · simp [parse, hline]
  · have hparse : parse text = (read? .createTable text.toList <|> read? .insert text.toList <|>
        read? .select text.toList <|> read? .delete text.toList) := by
      simp [parse, hline, read?]
    rw [hparse]
    constructor
    · intro h
      refine ⟨hline, ?_⟩
      have hread : ∃ kind, read? kind text.toList = some statement := by
        simp only [Option.orElse_eq_orElse, Option.orElse_eq_or, Option.or_eq_some_iff] at h
        rcases h with h | ⟨_, h | ⟨_, h | ⟨_, h⟩⟩⟩
        · exact ⟨_, h⟩
        · exact ⟨_, h⟩
        · exact ⟨_, h⟩
        · exact ⟨_, h⟩
      obtain ⟨kind, hread⟩ := hread
      rwa [(read?_sound hline hread).2]
    · rintro ⟨_, hread⟩
      have hcut := (read?_sound hline hread).1
      -- A text has cuts of one kind only, so the other readers refuse it.
      have hother : ∀ kind ≠ statement.kind, read? kind text.toList = none := by
        intro kind hkind
        cases hfound : read? kind text.toList with
        | none => rfl
        | some other =>
            obtain ⟨hothercut, rfl⟩ := read?_sound hline hfound
            exact absurd (hothercut.kind_eq hcut) hkind
      cases hkind : statement.kind <;> rw [hkind] at hread hother <;>
        simp [hread, hother]

/-! The main result. -/

theorem name_append_inj {first second : String} {rest other : List Char}
    (hfirst : IsName first) (hsecond : IsName second)
    (hrest : ∀ c ∈ rest.head?, isNameLetter c = false)
    (hother : ∀ c ∈ other.head?, isNameLetter c = false)
    (h : first.toList ++ rest = second.toList ++ other) : first = second ∧ rest = other := by
  have hread := name?_toList_append hfirst hrest
  rw [h, name?_toList_append hsecond hother, Option.some.injEq, Prod.mk.injEq,
    String.toList_inj] at hread
  exact ⟨hread.1.symm, hread.2.symm⟩

theorem clauseBody_inj {first second : Option String}
    (h : clauseBody first = clauseBody second) : first = second := by
  cases first <;> cases second <;> simp_all [String.toList_inj]

theorem IsCut.eq_of_length_eq {text : String} {first second : Statement}
    (hfirst : IsCut text first) (hsecond : IsCut text second)
    (hlength : first.leading.length = second.leading.length) : first = second := by
  have hkind := hfirst.kind_eq hsecond
  have hbody := hfirst.body_eq hsecond
  have hadmissible := hfirst.admissible
  have hother := hsecond.admissible
  cases first with
  | createTable name definitions =>
      cases second <;> simp only [kind, reduceCtorEq] at hkind
      obtain ⟨rfl, hrest⟩ := name_append_inj hadmissible.1 hother.1 (head_opening _)
        (head_opening _) hbody
      have hdefinitions := List.append_cancel_right (List.append_cancel_left hrest)
      rw [String.toList_inj.mp hdefinitions]
  | insert name columns values =>
      cases second <;> simp only [kind, reduceCtorEq] at hkind
      obtain ⟨rfl, hrest⟩ := name_append_inj hadmissible.1 hother.1 (head_opening _)
        (head_opening _) hbody
      obtain ⟨hcolumns, hrest⟩ := List.append_inj (List.append_cancel_left hrest)
        (by simpa only [leading, String.length_toList] using hlength)
      have hvalues := List.append_cancel_right (List.append_cancel_left hrest)
      rw [String.toList_inj.mp hcolumns, String.toList_inj.mp hvalues]
  | select columns name clause =>
      cases second <;> simp only [kind, reduceCtorEq] at hkind
      obtain ⟨hcolumns, hrest⟩ := List.append_inj hbody
        (by simpa only [leading, String.length_toList] using hlength)
      obtain ⟨rfl, hclause⟩ := name_append_inj hadmissible.2.1 hother.2.1 head_clauseBody
        head_clauseBody (List.append_cancel_left hrest)
      rw [String.toList_inj.mp hcolumns, clauseBody_inj hclause]
  | delete name clause =>
      cases second <;> simp only [kind, reduceCtorEq] at hkind
      obtain ⟨rfl, hclause⟩ := name_append_inj hadmissible.1 hother.1 head_clauseBody
        head_clauseBody hbody
      rw [clauseBody_inj hclause]

theorem parse_sound {text : String} {statement : Statement} (h : parse text = some statement) :
    IsCut text statement := by
  obtain ⟨hline, hread⟩ := parse_eq_some_iff_read?.mp h
  exact (read?_sound hline hread).1

/-- A text with a cut is read, and no cut of it has a longer leading operand. -/
theorem parse_complete {text : String} {statement : Statement} (hcut : IsCut text statement) :
    ∃ found, parse text = some found ∧ statement.leading.length ≤ found.leading.length := by
  obtain ⟨found, hread, hlength⟩ := read?_complete hcut
  refine ⟨found, parse_eq_some_iff_read?.mpr ⟨hcut.one_line, ?_⟩, hlength⟩
  rwa [(read?_sound hcut.one_line hread).2]

theorem parse_eq_some_iff {text : String} {statement : Statement} :
    parse text = some statement ↔
      IsCut text statement ∧
        ∀ other, IsCut text other → other.leading.length ≤ statement.leading.length := by
  constructor
  · intro h
    refine ⟨parse_sound h, ?_⟩
    intro other hother
    obtain ⟨found, hfound, hlength⟩ := parse_complete hother
    rw [h] at hfound
    cases hfound
    exact hlength
  · rintro ⟨hcut, hlongest⟩
    obtain ⟨found, hfound, hlength⟩ := parse_complete hcut
    have hequal := Nat.le_antisymm hlength (hlongest found (parse_sound hfound))
    rw [hfound, hcut.eq_of_length_eq (parse_sound hfound) hequal]

theorem parse_eq_none_iff {text : String} :
    parse text = none ↔ ∀ statement, ¬ IsCut text statement := by
  constructor
  · intro h statement hcut
    obtain ⟨found, hfound, _⟩ := parse_complete hcut
    rw [h] at hfound
    contradiction
  · intro h
    cases hparse : parse text with
    | none => rfl
    | some statement => exact absurd (parse_sound hparse) (h statement)

/-- Reading accepts the texts that have a cut and takes the cut with the longest leading operand.
The cuts of a text are of one kind, none has a line feed in its text, and the written form of what
is read is the text itself. -/
theorem parse_exact (text : String) :
    (∀ statement, parse text = some statement ↔
      IsCut text statement ∧
        ∀ other, IsCut text other → other.leading.length ≤ statement.leading.length) ∧
    (parse text = none ↔ ∀ statement, ¬ IsCut text statement) ∧
    (∀ first second, IsCut text first → IsCut text second → first.kind = second.kind) ∧
    ('\n' ∈ text.toList → parse text = none) ∧
    (∀ statement, parse text = some statement → statement.render = text) ∧
    (∀ other, parse text ≠ none → parse other = parse text → other = text) := by
  refine ⟨fun _ => parse_eq_some_iff, parse_eq_none_iff, fun _ _ => IsCut.kind_eq, ?_,
    fun _ h => (parse_sound h).render_eq, ?_⟩
  · intro hline
    exact parse_eq_none_iff.mpr fun _ hcut => hcut.one_line hline
  · intro other haccepted hsame
    obtain ⟨statement, hparse⟩ := Option.ne_none_iff_exists'.mp haccepted
    rw [← (parse_sound hparse).render_eq, ← (parse_sound (hsame.trans hparse)).render_eq]

end RowStore.Statement
