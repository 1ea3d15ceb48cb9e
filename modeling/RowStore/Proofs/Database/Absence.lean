import RowStore.Proofs.Catalog.Absence
import RowStore.Proofs.Database.Creation

namespace RowStore

open Database

namespace Host

variable {host : Host}

theorem step_execute_of_parse (hstarted : host.core.started = true) {text : String}
    {statement : Statement}
    (hparse : Statement.parse text = some statement) :
    let stepped := host.drain.core.catalog.step statement
    (host.step (.execute text)).1 = (Outcome.ofReply text stepped.1).answer ∧
      (host.step (.execute text)).2.core.catalog = stepped.2 := by
  obtain rfl := (Statement.parse_sound hparse).render_eq
  exact step_execute_render hstarted hparse

section Run

variable {site : Site} {execution : Execution} {database : Database}
  (hcreate : Database.create execution = .ok database) (hempty : site.store.catalog = .empty)
  (actions : List Action)

include hcreate hempty

theorem exists_insertion_of_run {name : String} {table : Table}
    (htable : ((Host.mk site database).run actions).2.drain.core.catalog.table? name = some table)
    {row : Row} (hrow : row ∈ table.rows) :
    ∃ text ∈ execution.awaited (actions.flatMap Action.submissions), ∃ columns values,
      Statement.parse text = some (.insert name columns values) ∧
        row = Row.ofText columns values := by
  obtain ⟨texts, hsubset, hcatalog⟩ := exists_texts_of_run hcreate hempty actions
  rw [hcatalog, Catalog.catalog_run_interpret] at htable
  obtain ⟨columns, values, hmem, hinserted⟩ := Catalog.exists_insert_of_run ⟨table, htable, hrow⟩
  obtain ⟨text, htext, hparse⟩ := List.mem_filterMap.mp hmem
  exact ⟨text, hsubset htext, columns, values, hparse, hinserted⟩

end Run

/-- A clause without the separator, on a table of a started database. A selection finds the rows
that hold nothing in the column of the clause, whole and in order, and a deletion takes out the same
rows and leaves the others. These are the rows that lack the column and those that have it without a
value. Each row comes from an insertion, and it is found if and only if the last place that names
the column there, if any, has no value. So where each insertion into the table that names the column
gives it a value, the rows found are those that lack it. -/
theorem run_filter_of_no_separator {site : Site} {delay : Binary64} {serialized : Bool}
    {database : Database}
    (hcreate : Database.create { delay := delay, workers := 1, serialized := serialized } =
      .ok database)
    (hempty : site.store.catalog = .empty) (actions : List Action)
    (hstarted : ((Host.mk site database).run actions).2.database.started = true)
    {name : String} {table : Table}
    (htable : ((Host.mk site database).run actions).2.drain.site.store.catalog.table? name =
      some table)
    {clause : String} (habsent : ¬ " = ".toList <:+: clause.toList) :
    let execution : Execution := { delay := delay, workers := 1, serialized := serialized }
    let host := ((Host.mk site database).run actions).2
    let texts := execution.awaited (actions.flatMap Action.submissions)
    let found := table.rows.filter fun row => row.cell clause = none
    (∀ text columns, Statement.parse text = some (.select columns name (some clause)) →
      let selected := host.step (.execute text)
      selected.1 = .ok (.result (some found)) ∧
        selected.2.site.store.catalog = host.drain.site.store.catalog) ∧
    (∀ text, Statement.parse text = some (.delete name (some clause)) →
      let deleted := host.step (.execute text)
      deleted.1 = .ok (.result none) ∧
        ∀ other, deleted.2.site.store.catalog.table? other =
          if other = name then
            some { table with rows := table.rows.filter fun row => row.cell clause ≠ none }
          else host.drain.site.store.catalog.table? other) ∧
    (∀ row ∈ table.rows,
      (row ∈ found ↔ clause ∉ row.keys ∨ row.get? clause = some none) ∧
      ∃ text ∈ texts, ∃ columns values,
        Statement.parse text = some (.insert name columns values) ∧
          row = Row.ofText columns values ∧
          (row ∈ found ↔ ¬ Row.IsGiven (Text.items columns) (Text.items values) clause)) ∧
    ((∀ text ∈ texts, ∀ columns values,
        Statement.parse text = some (.insert name columns values) →
        clause ∈ Text.items columns →
        Row.IsGiven (Text.items columns) (Text.items values) clause) →
      found = table.rows.filter fun row => clause ∉ row.keys) := by
  intro execution host texts found
  have hheld : host.drain.core.catalog.table? name = some table := htable
  have hfound {row : Row} (hrow : row ∈ table.rows) :
      row ∈ found ↔ row.cell clause = none := by
    simp [found, hrow]
  have hinserted {row : Row} (hrow : row ∈ table.rows) :=
    exists_insertion_of_run hcreate hempty actions htable hrow
  refine ⟨fun text columns hparse => ?_, fun text hparse => ?_, fun row hrow => ⟨?_, ?_⟩,
    fun hgiven => ?_⟩
  · obtain ⟨-, -, hclause⟩ := (Statement.parse_sound hparse).admissible
    obtain ⟨hanswer, hcatalog⟩ := step_execute_of_parse hstarted hparse
    rw [Catalog.step_select_of_no_separator (hclause clause rfl).nonempty habsent hheld]
      at hanswer hcatalog
    exact ⟨hanswer, hcatalog⟩
  · obtain ⟨-, hclause⟩ := (Statement.parse_sound hparse).admissible
    obtain ⟨hanswer, hcatalog⟩ := step_execute_of_parse hstarted hparse
    rw [Catalog.step_delete_of_no_separator (hclause clause rfl).nonempty habsent hheld]
      at hanswer hcatalog
    refine ⟨hanswer, fun other => ?_⟩
    exact (congrArg (Catalog.table? · other) hcatalog).trans (Catalog.table?_put ..)
  · rw [hfound hrow, Row.cell_eq_none_iff]
  · obtain ⟨text, htext, columns, values, hparse, rfl⟩ := hinserted hrow
    refine ⟨text, htext, columns, values, hparse, rfl, ?_⟩
    rw [hfound hrow, Row.cell_ofText_eq_none_iff]
  · refine List.filter_congr fun row hrow => decide_eq_decide.mpr ?_
    constructor
    · intro hnone hkey
      obtain ⟨text, htext, columns, values, hparse, rfl⟩ := hinserted hrow
      rw [Row.keys_ofText, List.mem_eraseDups] at hkey
      exact Row.cell_ofText_eq_none_iff.mp hnone (hgiven text htext columns values hparse hkey)
    · intro hkey
      exact Row.cell_eq_none_iff.mpr (.inl hkey)

/-- A column that is named without a value is found, also where an earlier place of it has one. In
this run each insertion that names the other column gives it a value, so only the row without it is
found. -/
theorem run_filter_of_no_separator_of_mixed :
    let host := (({} : Host).run
      [.start, .execute "create table t (a)", .execute "insert into t (a, b) values (1)",
        .executeMany ["insert into t (b) values (2)"],
        .submit "insert into t (b, a, b) values (1, 2)"]).2
    let table : Table :=
      ⟨Schema.ofText "a", [Row.ofText "a, b" "1", Row.ofText "b" "2", Row.ofText "b, a, b" "1, 2"]⟩
    host.database.started = true ∧
      host.drain.site.store.catalog.table? "t" = some table ∧
      (host.step (.execute "select a from t where b")).1 =
        .ok (.result (some [Row.ofText "a, b" "1", Row.ofText "b, a, b" "1, 2"])) ∧
      (host.step (.execute "delete from t where b")).2.site.store.catalog.table? "t" =
        some { table with rows := [Row.ofText "b" "2"] } ∧
      (host.step (.execute "select b from t where a")).1 =
        .ok (.result (some [Row.ofText "b" "2"])) ∧
      table.rows.filter (fun row => "a" ∉ row.keys) = [Row.ofText "b" "2"] := by
  intro host table
  have hcreate : Database.create { delay := .zero, workers := 1, serialized := false } = .ok {} :=
    rfl
  have hstarted : host.database.started = true := rfl
  have htable : host.drain.site.store.catalog.table? "t" = some table := by decide +kernel
  obtain ⟨hselect, hdelete, -, -⟩ := @run_filter_of_no_separator {} .zero false {} hcreate rfl _
    hstarted "t" table htable "b" (by decide)
  obtain ⟨hother, -, -, hlacking⟩ := @run_filter_of_no_separator {} .zero false {} hcreate rfl _
    hstarted "t" table htable "a" (by decide)
  have hlacking : table.rows.filter (fun row => row.cell "a" = none) =
      table.rows.filter fun row => "a" ∉ row.keys := by
    refine hlacking fun text htext columns values hparse hcolumn => ?_
    obtain ⟨submission, hsubmission, -, rfl⟩ := Execution.mem_awaited.mp htext
    simp only [List.flatMap_cons, List.flatMap_nil, Action.submissions, List.nil_append,
      List.cons_append, List.mem_cons, List.not_mem_nil, or_false] at hsubmission
    rcases hsubmission with rfl | rfl | rfl | rfl
    · have hread : Statement.parse "create table t (a)" = some (.createTable "t" "a") := by
        decide +kernel
      simp [hread] at hparse
    · have hread : Statement.parse "insert into t (a, b) values (1)" =
          some (.insert "t" "a, b" "1") := by decide +kernel
      obtain ⟨rfl, rfl⟩ : "a, b" = columns ∧ "1" = values := by simpa [hread] using hparse
      exact ⟨[], ["b"], by decide, by decide, by decide⟩
    · have hread : Statement.parse "insert into t (b) values (2)" = some (.insert "t" "b" "2") := by
        decide +kernel
      obtain ⟨rfl, -⟩ : "b" = columns ∧ "2" = values := by simpa [hread] using hparse
      exact absurd hcolumn (by decide)
    · have hread : Statement.parse "insert into t (b, a, b) values (1, 2)" =
          some (.insert "t" "b, a, b" "1, 2") := by decide +kernel
      obtain ⟨rfl, rfl⟩ : "b, a, b" = columns ∧ "1, 2" = values := by simpa [hread] using hparse
      exact ⟨["b"], ["b"], by decide, by decide, by decide⟩
  have hrows : table.rows.filter (fun row => "a" ∉ row.keys) = [Row.ofText "b" "2"] := by
    decide +kernel
  refine ⟨hstarted, htable, ?_, ?_, ?_, hrows⟩
  · refine (hselect "select a from t where b" "a" (by decide +kernel)).1.trans ?_
    rfl
  · refine ((hdelete "delete from t where b" (by decide +kernel)).2 "t").trans ?_
    decide +kernel
  · refine (hother "select b from t where a" "b" (by decide +kernel)).1.trans ?_
    rw [hlacking, hrows]

/-- A column that an insertion names without a value is there, and yet a clause without the
separator finds the row and takes it out. -/
theorem named_column_found :
    let host := (({} : Host).run
      [.start, .execute "create table t (a)", .execute "insert into t (a, b) values (1)"]).2
    let row := Row.ofText "a, b" "1"
    ¬ " = ".toList <:+: "b".toList ∧ "b" ∈ row.keys ∧
      host.site.store.catalog.table? "t" = some ⟨Schema.ofText "a", [row]⟩ ∧
      (host.step (.execute "select a from t where b")).1 = .ok (.result (some [row])) ∧
      (host.step (.execute "delete from t where b")).2.site.store.catalog.table? "t" =
        some ⟨Schema.ofText "a", []⟩ := by
  intro host row
  refine ⟨by decide, by decide +kernel, by decide +kernel, rfl, by decide +kernel⟩

end Host

end RowStore
