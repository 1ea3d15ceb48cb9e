import RowStore.Proofs.Catalog.Deletion

/-!
Filters that ask for a missing value.

A clause without the separator only names a column, and it finds the rows that hold nothing there.
These are the rows without the column, and also those that have it without a value. Which of the two
a row is, and whether it is one of them, is told by the insertion that it comes from.
-/

namespace RowStore

section Clause

variable {clause : String} (hclause : clause ≠ "") (habsent : ¬ " = ".toList <:+: clause.toList)

include hclause habsent

theorem strikes_of_no_separator :
    strikes (some clause) = fun row => decide (row.cell clause = none) := by
  funext row
  rw [strikes_of_nonempty hclause, Filter.ofText_of_no_separator habsent]

namespace Catalog

variable {catalog : Catalog} {name : String} {table : Table}
  (htable : catalog.table? name = some table)

include htable

theorem step_select_of_no_separator (columns : String) :
    catalog.step (.select columns name (some clause)) =
      (.ok (.selected (table.rows.filter fun row => row.cell clause = none)), catalog) := by
  rw [step_select_of_table? htable, Table.select_of_nonempty hclause,
    strikes_of_no_separator hclause habsent]

theorem step_delete_of_no_separator :
    catalog.step (.delete name (some clause)) =
      (.ok (.removed (table.rows.filter fun row => row.cell clause = none).length),
        catalog.put name
          { table with rows := table.rows.filter fun row => row.cell clause ≠ none }) := by
  have hkept : table.without [some clause] =
      { table with rows := table.rows.filter fun row => row.cell clause ≠ none } := by
    simp [Table.without, strikes_of_no_separator hclause habsent]
  rw [step_delete htable, hkept, strikes_of_no_separator hclause habsent]

end Catalog

end Clause

/-! Where rows come from. -/

namespace Catalog

variable {catalog : Catalog} {name : String} {row : Row}

def Holds (catalog : Catalog) (name : String) (row : Row) : Prop :=
  ∃ table, catalog.table? name = some table ∧ row ∈ table.rows

theorem not_holds_empty : ¬ empty.Holds name row := by
  rintro ⟨table, htable, -⟩
  contradiction

theorem holds_of_step {statement : Statement}
    (hholds : (catalog.step statement).2.Holds name row) :
    catalog.Holds name row ∨ statement.inserted? name = some row := by
  obtain ⟨table, htable, hrow⟩ := hholds
  rw [table?_step] at htable
  split at htable
  next hname =>
    subst hname
    cases statement with
    | createTable name definitions =>
        obtain rfl := Option.some.inj htable
        contradiction
    | insert name columns values =>
        obtain ⟨old, hold, rfl⟩ := Option.map_eq_some_iff.mp htable
        rcases List.mem_append.mp hrow with hrow | hrow
        · exact .inl ⟨old, hold, hrow⟩
        · obtain rfl := List.mem_singleton.mp hrow
          exact .inr (if_pos rfl)
    | select columns name clause => exact .inl ⟨table, htable, hrow⟩
    | delete name clause =>
        obtain ⟨old, hold, rfl⟩ := Option.map_eq_some_iff.mp htable
        rw [Table.erase_ofClause?] at hrow
        exact .inl ⟨old, hold, List.mem_of_mem_filter hrow⟩
  next => exact .inl ⟨table, htable, hrow⟩

theorem holds_of_run {statements : List Statement}
    (hholds : (catalog.run statements).2.Holds name row) :
    catalog.Holds name row ∨ ∃ statement ∈ statements, statement.inserted? name = some row := by
  induction statements generalizing catalog with
  | nil => exact .inl hholds
  | cons statement statements ih =>
      rcases ih hholds with hearly | ⟨later, hlater, hinserted⟩
      · exact (holds_of_step hearly).imp_right fun hinserted =>
          ⟨statement, List.mem_cons_self, hinserted⟩
      · exact .inr ⟨later, List.mem_cons_of_mem _ hlater, hinserted⟩

theorem exists_insert_of_run {statements : List Statement}
    (hholds : (empty.run statements).2.Holds name row) :
    ∃ columns values, .insert name columns values ∈ statements ∧
      row = Row.ofText columns values := by
  obtain ⟨statement, hmem, hinserted⟩ := (holds_of_run hholds).resolve_left not_holds_empty
  cases statement with
  | insert target columns values =>
      obtain ⟨rfl, hrow⟩ := Option.ite_none_right_eq_some.mp hinserted
      exact ⟨columns, values, hmem, (Option.some.inj hrow).symm⟩
  | createTable | select | delete => contradiction

end Catalog

end RowStore
