import RowStore.Proofs.Database.Order
import RowStore.Proofs.Database.Verdict
import RowStore.Proofs.Statement.Plain

namespace RowStore

open Database

namespace Catalog

variable {catalog : Catalog} {name columns values projection clause : String} {table : Table}

/-- A row that passes a filter: it is put in, selected, taken out, and not selected again. -/
theorem run_of_accepts (htable : catalog.table? name = some table)
    (hclause : clause ≠ "")
    (haccepts : (Filter.ofText clause).accepts (Row.ofText columns values) = true) :
    let filter := Filter.ofText clause
    let selection : Statement := .select projection name (some clause)
    let ran := catalog.run
      [.insert name columns values, selection, .delete name (some clause), selection]
    (∃ count, ran.1 =
      [.ok .inserted,
        .ok (.selected (table.rows.filter filter.accepts ++ [Row.ofText columns values])),
        .ok (.removed count), .ok (.selected [])]) ∧
      ∀ other, ran.2.table? other =
        if other = name then
          some { table with rows := table.rows.filter fun row => !filter.accepts row }
        else catalog.table? other := by
  intro filter selection ran
  let larger := table.append (Row.ofText columns values)
  let kept := larger.erase (some filter)
  have hfilter : Filter.ofClause? (some clause) = some filter := Filter.ofClause?_some hclause
  have hinsert : catalog.step (.insert name columns values) =
      (.ok .inserted, catalog.put name larger) := step_insert_of_table? htable columns values
  have hlarger : (catalog.put name larger).table? name = some larger := table?_put_self ..
  have hselect : (catalog.put name larger).step selection =
      (.ok (.selected (larger.rows.filter filter.accepts)), catalog.put name larger) := by
    rw [step_select_of_table? hlarger, hfilter, Table.select]
  have hdelete : (catalog.put name larger).step (.delete name (some clause)) =
      (.ok (.removed (larger.rows.length - kept.rows.length)),
        (catalog.put name larger).put name kept) := by
    rw [step_delete_of_table? hlarger, hfilter]
  have hkept : ((catalog.put name larger).put name kept).table? name = some kept :=
    table?_put_self ..
  have hagain : ((catalog.put name larger).put name kept).step selection =
      (.ok (.selected (kept.rows.filter filter.accepts)),
        (catalog.put name larger).put name kept) := by
    rw [step_select_of_table? hkept, hfilter, Table.select]
  have hfound : larger.rows.filter filter.accepts =
      table.rows.filter filter.accepts ++ [Row.ofText columns values] := by
    simp [larger, filter, Table.append, haccepts]
  have hrows : kept.rows = table.rows.filter fun row => !filter.accepts row := by
    simp [kept, larger, filter, Table.erase, Table.append, haccepts]
  have hnone : kept.rows.filter filter.accepts = [] := by
    simp [hrows, List.filter_filter]
  simp only [ran, run_cons, run_nil, hinsert, hselect, hdelete, hagain, hfound, hnone]
  refine ⟨⟨_, rfl⟩, fun other => ?_⟩
  rw [table?_put, table?_put, ← hrows]
  split <;> rfl

theorem run_interpret_render {statements : List Statement}
    (hread : ∀ statement ∈ statements, Statement.parse statement.render = some statement) :
    interpret.run catalog (statements.map Statement.render) =
      (statements.zipWith (fun statement => Outcome.ofReply statement.render)
        (catalog.run statements).1, (catalog.run statements).2) := by
  induction statements generalizing catalog with
  | nil => rfl
  | cons statement statements ih =>
      rw [List.map_cons, Evaluator.run_cons,
        interpret_of_parse (hread statement List.mem_cons_self),
        ih fun other hother => hread other (List.mem_cons_of_mem _ hother)]
      rfl

theorem isName_of_mem_names {texts : List String} {name : String}
    (hname : name ∈ (interpret.run .empty texts).2.names) : Statement.IsName name := by
  rcases mem_names_run_iff.mp hname with hempty | ⟨text, -, definitions, hparse⟩
  · contradiction
  · exact (Statement.parse_sound hparse).admissible.1

end Catalog

namespace Host

variable {host : Host}

theorem queue_run_execute (hstarted : host.core.started = true) {submissions : List Submission}
    (hsubmissions : submissions ≠ []) :
    (host.run (submissions.map .execute)).2.core.queue = [] := by
  induction submissions generalizing host with
  | nil => exact absurd rfl hsubmissions
  | cons submission submissions ih =>
      rw [List.map_cons, run_cons, step_execute hstarted]
      cases submissions with
      | nil => rw [List.map_nil, run_nil, queue_perform, queue_drain]
      | cons next submissions =>
          exact ih (by rw [started_perform, started_drain, hstarted]) (List.cons_ne_nil _ _)

theorem mem_names_drain {name : String} (hname : name ∈ host.core.catalog.names) :
    name ∈ host.drain.core.catalog.names := by
  rw [core_drain, Execution.catalog_run_evaluator]
  exact Catalog.mem_names_run_iff.mpr (.inl hname)

section Origin

variable {site : Site} {execution : Execution} {database : Database}
  (hcreate : Database.create execution = .ok database) (hempty : site.store.catalog = .empty)
  (actions : List Action)

include hcreate hempty

theorem exists_texts_of_run :
    ∃ texts, texts ⊆ execution.awaited (actions.flatMap Action.submissions) ∧
      ((Host.mk site database).run actions).2.drain.core.catalog =
        (Catalog.interpret.run .empty texts).2 := by
  obtain rfl := eq_of_create hcreate
  let host : Host := { site := site, database := { execution := execution } }
  let interpreter : Interpreter := { catalog := .empty, owed := site.settled }
  have hlevel : host.core = level execution interpreter := by
    simp only [core, host, hempty, level, interpreter]
  have hfollows := ((follows_of_level hlevel).agrees_run actions).2
  have hlogged : interpreter.Logged execution.evaluator .empty := rfl
  let ran := (interpreter.run execution.evaluator actions).2.submissions
  refine ⟨execution.awaited ran, fun text htext => ?_, ?_⟩
  · obtain ⟨submission, hsubmission, hreturned⟩ := Execution.mem_awaited.mp htext
    exact Execution.mem_awaited.mpr
      ⟨submission, interpreter.submissions_run_subset actions hsubmission, hreturned⟩
  · rw [← Execution.catalog_run_evaluator]
    exact (congrArg Core.catalog hfollows.core_drain).trans
      (congrArg Prod.snd (hlogged.run actions)).symm

theorem exists_table_of_run {name : String}
    (hname : name ∈ ((Host.mk site database).run actions).2.core.catalog.names) :
    let last := ((Host.mk site database).run actions).2
    Statement.IsName name ∧ ∃ table, last.drain.core.catalog.table? name = some table := by
  intro last
  obtain ⟨texts, -, hcatalog⟩ := exists_texts_of_run hcreate hempty actions
  have hheld : name ∈ last.drain.core.catalog.names := mem_names_drain hname
  refine ⟨?_, Option.isSome_iff_exists.mp (Catalog.mem_names_iff.mp hheld)⟩
  rw [hcatalog] at hheld
  exact Catalog.isName_of_mem_names hheld

end Origin

theorem run_execute_render (hstarted : host.core.started = true) {statements : List Statement}
    (hread : ∀ statement ∈ statements, Statement.parse statement.render = some statement)
    (hstatements : statements ≠ []) :
    let ran := host.drain.core.catalog.run statements
    let last := host.run (statements.map fun statement => .execute statement.render)
    last.1 = (statements.zipWith (fun statement => Outcome.ofReply statement.render) ran.1).map
        Outcome.answer ∧
      last.2.core.catalog = ran.2 := by
  intro ran last
  let submissions : List Submission := statements.map fun statement => statement.render
  have hsubmissions : statements.map (fun statement => Action.execute statement.render) =
      submissions.map .execute := by
    rw [List.map_map]
    rfl
  have hlast : last = host.run (submissions.map .execute) := congrArg host.run hsubmissions
  obtain ⟨hanswers, hdrained⟩ := run_execute hstarted submissions
  have hnonempty : submissions ≠ [] := by simpa [submissions]
  have hidle := queue_run_execute hstarted hnonempty
  rw [drain_of_idle hidle] at hdrained
  obtain ⟨houtcomes, hcore⟩ := host.drain.performAll_eq submissions
  have hrun : host.drain.core.execution.evaluator.run host.drain.core.catalog submissions =
      Catalog.interpret.run host.drain.core.catalog (statements.map Statement.render) := by
    rw [Execution.run_evaluator_of_returned (by simp [submissions]), List.map_map]
    rfl
  rw [hrun, Catalog.run_interpret_render hread] at houtcomes hcore
  rw [hlast, hanswers, hdrained, houtcomes, hcore]
  exact ⟨rfl, rfl⟩

/-- A row is inserted into a table, and rows are selected and deleted by one of its columns and the
value in it. No text of the row holds a mark of the language, and the clause holds no source, even
with the space before it. -/
theorem run_insert_select_delete {site : Site} {delay : Binary64} {serialized : Bool}
    {database : Database}
    (hcreate : Database.create { delay := delay, workers := 1, serialized := serialized } =
      .ok database)
    (hempty : site.store.catalog = .empty) (actions : List Action)
    (hstarted : ((Host.mk site database).run actions).2.database.started = true)
    {name : String}
    (hname : name ∈ ((Host.mk site database).run actions).2.site.store.catalog.names)
    (hfrom : name ≠ "from")
    {cells : List (String × String)} (hplain : ∀ cell ∈ cells, IsPlain cell.1 ∧ IsPlain cell.2)
    (hdistinct : (cells.map Prod.fst).Nodup)
    {column value : String} (hcell : (column, value) ∈ cells)
    (hsource : ¬ " from ".toList <:+: (" " ++ (column ++ " = " ++ value)).toList)
    {projection : String} (hprojection : Statement.IsOperand projection) :
    let host := ((Host.mk site database).run actions).2
    let columns := Text.joinItems (cells.map Prod.fst)
    let values := Text.joinItems (cells.map Prod.snd)
    let clause := column ++ " = " ++ value
    let insertion : Statement := .insert name columns values
    let selection : Statement := .select projection name (some clause)
    let deletion : Statement := .delete name (some clause)
    let ran := host.run
      [.execute insertion.render, .execute selection.render, .execute deletion.render,
        .execute selection.render]
    ∃ table row, host.drain.site.store.catalog.table? name = some table ∧
      row.entries = cells.map (fun cell => (cell.1, some cell.2)) ∧
      ran.1 =
        [.ok (.result none),
          .ok (.result (some (table.rows.filter (fun row => row.cell column = some value) ++
            [row]))),
          .ok (.result none), .ok (.result (some []))] ∧
      ∀ other, ran.2.site.store.catalog.table? other =
        if other = name then
          some { table with rows := table.rows.filter fun row => row.cell column ≠ some value }
        else host.drain.site.store.catalog.table? other := by
  intro host columns values clause insertion selection deletion ran
  obtain ⟨hletters, table, htable⟩ := exists_table_of_run hcreate hempty actions hname
  obtain ⟨hcolumn, hvalue⟩ : IsPlain column ∧ IsPlain value := hplain _ hcell
  have hcells : cells ≠ [] := List.ne_nil_of_mem hcell
  let row := Row.ofText columns values
  have hentries : row.entries = cells.map fun cell => (cell.1, some cell.2) :=
    Row.entries_of_plain hcells hplain hdistinct
  have hfilter : Filter.ofText clause = ⟨column, some value⟩ :=
    Filter.ofText_of_plain hcolumn hvalue
  have hrow : row.cell column = some value := by
    refine Row.cell_of_mem ?_
    rw [hentries]
    exact List.mem_map.mpr ⟨_, hcell, rfl⟩
  have haccepts : (Filter.ofText clause).accepts row = true := by
    rw [hfilter, Filter.accepts, hrow, decide_eq_true rfl]
  have hread : ∀ statement ∈ [insertion, selection, deletion, selection],
      Statement.parse statement.render = some statement := by
    have hinsertion := Statement.parse_insert_of_plain hcells hplain hletters
    have hselection := Statement.parse_select_of_plain hcolumn hvalue hprojection hletters hfrom
      hsource
    have hdeletion := Statement.parse_delete_of_plain hcolumn hvalue hletters
    simpa using ⟨hinsertion, hselection, hdeletion, hselection⟩
  obtain ⟨hanswers, hcatalog⟩ := run_execute_render hstarted hread (List.cons_ne_nil _ _)
  obtain ⟨⟨count, hreplies⟩, htables⟩ := Catalog.run_of_accepts htable
    (isOperand_filter hcolumn hvalue).nonempty haccepts
  refine ⟨table, row, htable, hentries, ?_, fun other => ?_⟩
  · refine hanswers.trans ?_
    rw [hreplies, hfilter]
    rfl
  · refine (congrArg (Catalog.table? · other) hcatalog).trans ((htables other).trans ?_)
    rw [hfilter]
    simp only [Filter.accepts, ← decide_not]
    rfl

/-- An insertion that is still queued comes before the row, and a column that the table does not
declare is found in the row. -/
theorem run_insert_select_delete_of_queued :
    let host := (({} : Host).run
      [.start, .execute "create table t (a)", .execute "insert into t (a) values (1)",
        .submit "insert into t (a) values (x y)"]).2
    let ran := host.run
      [.execute "insert into t (b, a) values (2, x y)", .execute "select a from t where a = x y",
        .execute "delete from t where a = x y", .execute "select a from t where a = x y"]
    host.database.started = true ∧ "t" ∈ host.site.store.catalog.names ∧
      ran.1 =
        [.ok (.result none),
          .ok (.result (some [Row.ofText "a" "x y", Row.ofText "b, a" "2, x y"])),
          .ok (.result none), .ok (.result (some []))] ∧
      ran.2.site.store.catalog.table? "t" =
        some ⟨Schema.ofText "a", [Row.ofText "a" "1"]⟩ := by
  intro host ran
  have hplain : ∀ cell ∈ [("b", "2"), ("a", "x y")], IsPlain cell.1 ∧ IsPlain cell.2 := by
    simp only [List.forall_mem_cons]
    exact ⟨⟨⟨by decide, by simp⟩, ⟨by decide, by simp⟩⟩,
      ⟨⟨by decide, by simp⟩, ⟨by decide, by simp⟩⟩, by simp⟩
  have hsource : ¬ " from ".toList <:+: (" " ++ ("a" ++ " = " ++ "x y")).toList := by
    decide +kernel
  have hstarted : host.database.started = true := rfl
  have hname : "t" ∈ host.site.store.catalog.names := by decide +kernel
  obtain ⟨table, row, htable, hentries, hanswers, htables⟩ :=
    @run_insert_select_delete {} .zero false {} rfl rfl _ hstarted "t" hname (by decide) _ hplain
      (by decide) "a" "x y" (by decide) hsource "a" ⟨by decide, by decide⟩
  have hlevel : host.drain.site.store.catalog.table? "t" =
      some ⟨Schema.ofText "a", [Row.ofText "a" "1", Row.ofText "a" "x y"]⟩ := by
    decide +kernel
  obtain rfl := Option.some.inj (htable.symm.trans hlevel)
  have hrow : row = Row.ofText "b, a" "2, x y" := by
    refine OrderedMap.ext_entries (hentries.trans ?_)
    decide +kernel
  have hinsertion : (Statement.insert "t" (Text.joinItems ["b", "a"])
      (Text.joinItems ["2", "x y"])).render = "insert into t (b, a) values (2, x y)" := by decide
  have hselection : (Statement.select "a" "t" (some ("a" ++ " = " ++ "x y"))).render =
      "select a from t where a = x y" := by decide
  have hdeletion : (Statement.delete "t" (some ("a" ++ " = " ++ "x y"))).render =
      "delete from t where a = x y" := by decide
  have hfound : [Row.ofText "a" "1", Row.ofText "a" "x y"].filter
      (fun row => row.cell "a" = some "x y") = [Row.ofText "a" "x y"] := by decide +kernel
  have hkept : [Row.ofText "a" "1", Row.ofText "a" "x y"].filter
      (fun row => row.cell "a" ≠ some "x y") = [Row.ofText "a" "1"] := by decide +kernel
  simp only [List.map_cons, List.map_nil, hinsertion, hselection, hdeletion, hfound, hkept, hrow]
    at hanswers htables
  refine ⟨hstarted, hname, hanswers, ?_⟩
  simp only [ran, host]
  rw [htables, if_pos rfl]

end Host

end RowStore
