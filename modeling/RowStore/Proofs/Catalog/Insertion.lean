import RowStore.Proofs.Catalog.Step
import RowStore.Proofs.Filter
import RowStore.Proofs.Row

namespace RowStore

theorem Table.select_of_absent (table : Table) {clause : Option String}
    (hclause : clause ∈ [none, some ""]) (columns : List String) :
    table.select columns (Filter.ofClause? clause) =
      table.rows.map fun row => row.project columns := by
  rw [Filter.ofClause?_of_absent hclause, select]

namespace Catalog

variable {catalog : Catalog} {name : String} {table : Table}

theorem step_select_of_absent (htable : catalog.table? name = some table)
    {clause : Option String} (hclause : clause ∈ [none, some ""]) (columns : String) :
    ∃ projected,
      catalog.step (.select columns name clause) = (.ok (.selected projected), catalog) ∧
      projected.map OrderedMap.entries =
        table.rows.map fun row => row.cells (Text.items columns) := by
  refine ⟨_, step_select_of_table? htable columns clause, ?_⟩
  rw [table.select_of_absent hclause, List.map_map]
  exact List.map_congr_left fun row _ => row.entries_project (Text.items columns)

theorem step_select_of_append (catalog : Catalog) (name : String) (table : Table)
    {clause : Option String} (hclause : clause ∈ [none, some ""]) (columns values : String) :
    ∃ earlier, earlier.length = table.rows.length ∧
      (catalog.put name (table.append (Row.ofText columns values))).step
          (.select columns name clause) =
        (.ok (.selected (earlier ++ [Row.ofText columns values])),
          catalog.put name (table.append (Row.ofText columns values))) := by
  refine ⟨table.rows.map fun row => row.project (Text.items columns), List.length_map .., ?_⟩
  rw [step_select_of_table? (table?_put_self ..), Table.select_of_absent _ hclause, Table.append,
    List.map_append, List.map_singleton, Row.project_ofText]

/-- An insertion puts one row behind those of its table. The row has the columns of the text, each
where it first occurs, with the value in the place where it last occurs, or with nothing if there
are fewer values. A selection of these columns ends in the row as it is, and a selection of any
columns shows them of every row, each where it first occurs. -/
theorem insertion_pairs (htable : catalog.table? name = some table) :
    (∀ columns values, ∃ row next,
      catalog.step (.insert name columns values) = (.ok .inserted, next) ∧
      catalog.Revision name { table with rows := table.rows ++ [row] } next ∧
      row.keys = (Text.items columns).eraseDups ∧
      (∀ before column after, Text.items columns = before ++ column :: after → column ∉ after →
        row.get? column = some (Text.items values)[before.length]?) ∧
      ∀ clause ∈ [none, some ""], ∃ earlier, earlier.length = table.rows.length ∧
        next.step (.select columns name clause) = (.ok (.selected (earlier ++ [row])), next)) ∧
    ∀ columns, ∀ clause ∈ [none, some ""], ∃ projected,
      catalog.step (.select columns name clause) = (.ok (.selected projected), catalog) ∧
      projected.map OrderedMap.entries =
        table.rows.map fun row => row.cells (Text.items columns) := by
  refine ⟨fun columns values => ?_,
    fun columns clause hclause => step_select_of_absent htable hclause columns⟩
  refine ⟨Row.ofText columns values, _, step_insert_of_table? htable columns values,
    .put htable _, Row.keys_ofText columns values, fun before column after hcolumns hlast => ?_,
    fun clause hclause => step_select_of_append catalog name table hclause columns values⟩
  exact Row.get?_ofText hcolumns hlast

/-- A column that occurs twice holds nothing if only its first place has a value. -/
theorem insertion_pairs_of_repeated :
    let catalog := (empty.run [.createTable "t" "", .insert "t" "b" "1, 2"]).2
    catalog.table? "t" = some ⟨Schema.ofText "", [Row.ofText "b" "1"]⟩ ∧
      ∃ row next, catalog.step (.insert "t" "a, b, a" "1, 2") = (.ok .inserted, next) ∧
        next.table? "t" = some ⟨Schema.ofText "", [Row.ofText "b" "1", row]⟩ ∧
        row.keys = ["a", "b"] ∧ row.get? "a" = some none ∧ row.get? "b" = some (some "2") ∧
        ∃ first, next.step (.select "a, b, a" "t" none) = (.ok (.selected [first, row]), next) := by
  intro catalog
  have htable : catalog.table? "t" = some ⟨Schema.ofText "", [Row.ofText "b" "1"]⟩ := by
    decide +kernel
  obtain ⟨row, next, hinsert, hrevision, hkeys, hvalues, hselect⟩ :=
    (insertion_pairs htable).1 "a, b, a" "1, 2"
  obtain ⟨earlier, hlength, hselected⟩ := hselect none List.mem_cons_self
  obtain ⟨first, rfl⟩ := List.length_eq_one_iff.mp hlength
  have hcolumns : Text.items "a, b, a" = ["a", "b", "a"] := by decide +kernel
  have hitems : Text.items "1, 2" = ["1", "2"] := by decide +kernel
  refine ⟨htable, row, next, hinsert, ?_, ?_, ?_, ?_, first, hselected⟩
  · rw [hrevision.table?_eq, if_pos rfl]
    rfl
  · rw [hkeys, hcolumns]
    decide
  · have hlast := hvalues ["a", "b"] "a" [] hcolumns (by decide)
    rwa [hitems] at hlast
  · have hlast := hvalues ["a"] "b" ["a"] hcolumns (by decide)
    rwa [hitems] at hlast

end Catalog

end RowStore
