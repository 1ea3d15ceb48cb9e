import Mathlib.Algebra.BigOperators.Group.List.Basic
import Mathlib.Algebra.GroupWithZero.Nat
import RowStore.Proofs.Catalog.History
import RowStore.Proofs.Catalog.Insertion

namespace RowStore

theorem strikes_of_nonempty {clause : String} (hclause : clause ≠ "") (row : Row) :
    strikes (some clause) row =
      decide (row.cell (Filter.ofText clause).column = (Filter.ofText clause).value) := by
  simp [strikes, hclause]

theorem strikes_of_absent {clause : Option String} (hclause : clause ∈ [none, some ""])
    (row : Row) : strikes clause row = true := by
  rcases List.mem_pair.mp hclause with rfl | rfl
  · rfl
  · simp [strikes]

namespace Table

variable {table : Table} {clauses others : List (Option String)}

/-- A table without the rows that any of some clauses strikes. -/
def without (table : Table) (clauses : List (Option String)) : Table :=
  { table with rows := table.rows.filter fun row => clauses.all fun clause => !strikes clause row }

theorem without_nil (table : Table) : table.without [] = table := by simp [without]

theorem rows_without_singleton (table : Table) (clause : Option String) :
    (table.without [clause]).rows = table.rows.filter fun row => !strikes clause row := by
  simp [without]

theorem without_without :
    (table.without clauses).without others = table.without (clauses ++ others) := by
  simp only [without, List.filter_filter, List.all_append, Bool.and_comm]

theorem without_congr (hsame : ∀ clause, clause ∈ clauses ↔ clause ∈ others) :
    table.without clauses = table.without others := by
  have hrow (row : Row) : (clauses.all fun clause => !strikes clause row) =
      others.all fun clause => !strikes clause row := by
    rw [Bool.eq_iff_iff, List.all_eq_true, List.all_eq_true]
    exact forall_congr' fun clause => imp_congr_left (hsame clause)
  simp only [without, hrow]

theorem filter_rows_without (table : Table) (clause : Option String) :
    (table.without [clause]).rows.filter (strikes clause) = [] := by
  rw [rows_without_singleton, List.filter_filter]
  simp

theorem select_of_nonempty {clause : String} (hclause : clause ≠ "") (columns : List String) :
    table.select columns (Filter.ofClause? (some clause)) =
      table.rows.filter (strikes (some clause)) := by
  rw [Filter.ofClause?_some hclause, select]
  exact List.filter_congr fun row _ => (strikes_of_nonempty hclause row).symm

end Table

namespace Catalog

variable {catalog : Catalog} {name : String} {table : Table}

theorem step_delete (htable : catalog.table? name = some table) (clause : Option String) :
    catalog.step (.delete name clause) =
      (.ok (.removed (table.rows.filter (strikes clause)).length),
        catalog.put name (table.without [clause])) := by
  rw [step_delete_of_table? htable, Table.erase_ofClause?, length_filter_strikes,
    ← Table.rows_without_singleton]
  rfl

/-- What a deletion leaves is not struck by the same deletion again. -/
theorem step_delete_again (htable : catalog.table? name = some table) (clause : Option String) :
    ∃ next,
      catalog.step (.delete name clause) =
        (.ok (.removed (table.rows.filter (strikes clause)).length), next) ∧
      catalog.Revision name (table.without [clause]) next ∧
      next.step (.delete name clause) = (.ok (.removed 0), next) := by
  have htwice : (table.without [clause]).without [clause] = table.without [clause] :=
    Table.without_without.trans (Table.without_congr (by simp))
  refine ⟨_, step_delete htable clause, .put htable _, ?_⟩
  rw [step_delete (table?_put_self ..), Table.filter_rows_without, put_put, htwice]
  rfl

/-- A run of deletions is one deletion of what any of them strikes. -/
theorem run_deletions (htable : catalog.table? name = some table)
    (clauses : List (Option String)) :
    ∃ counts : List Nat,
      catalog.run (clauses.map (.delete name)) =
        (counts.map fun count => .ok (.removed count), catalog.put name (table.without clauses)) ∧
      counts.sum + (table.without clauses).rows.length = table.rows.length := by
  induction clauses generalizing catalog table with
  | nil =>
      refine ⟨[], ?_, ?_⟩
      · rw [Table.without_nil, put_of_table? htable]
        rfl
      · rw [Table.without_nil, List.sum_nil, Nat.zero_add]
  | cons clause clauses ih =>
      obtain ⟨counts, hrun, hsum⟩ := ih (table?_put_self catalog name (table.without [clause]))
      refine ⟨(table.rows.filter (strikes clause)).length :: counts, ?_, ?_⟩
      · rw [List.map_cons, run_cons, step_delete htable, hrun, put_put, Table.without_without]
        rfl
      · have hlength := table.rows.length_eq_length_filter_add (strikes clause)
        rw [Table.without_without, Table.rows_without_singleton] at hsum
        rw [List.sum_cons, Nat.add_assoc, ← List.singleton_append, hsum, hlength]

theorem run_deletions_congr (htable : catalog.table? name = some table)
    {first second : List (Option String)} (hsame : ∀ clause, clause ∈ first ↔ clause ∈ second) :
    ∃ (counts others : List Nat) (last : Catalog),
      catalog.run (first.map (.delete name)) =
        (counts.map fun count => .ok (.removed count), last) ∧
      catalog.run (second.map (.delete name)) =
        (others.map fun count => .ok (.removed count), last) ∧
      counts.sum = others.sum := by
  obtain ⟨counts, hfirst, hcounts⟩ := run_deletions htable first
  obtain ⟨others, hsecond, hothers⟩ := run_deletions htable second
  rw [← Table.without_congr hsame] at hsecond hothers
  exact ⟨counts, others, _, hfirst, hsecond, by omega⟩

/-- A selection by a clause finds whole rows, whatever columns it asks for, and a deletion by the
same clause counts these rows and leaves the others; both keep their order. Then neither of the two
finds anything. Deletions by the same clauses, in any order and each any number of times, end in the
same tables and take out equally many rows in all; so two deletions commute. A deletion without a
clause takes out every row, of which a selection without one shows the columns it asks for. -/
theorem deletion_complements_selection (htable : catalog.table? name = some table) :
    (∀ clause : String, clause ≠ "" →
      let filter := Filter.ofText clause
      let found := table.rows.filter fun row => row.cell filter.column = filter.value
      let rest := table.rows.filter fun row => row.cell filter.column ≠ filter.value
      (∀ columns, catalog.step (.select columns name (some clause)) =
        (.ok (.selected found), catalog)) ∧
      found.Sublist table.rows ∧ rest.Sublist table.rows ∧ (found ++ rest).Perm table.rows ∧
      ∃ next,
        catalog.step (.delete name (some clause)) = (.ok (.removed found.length), next) ∧
        catalog.Revision name { table with rows := rest } next ∧
        (∀ columns, next.step (.select columns name (some clause)) =
          (.ok (.selected []), next)) ∧
        next.step (.delete name (some clause)) = (.ok (.removed 0), next)) ∧
    (∀ first second : List (Option String), (∀ clause, clause ∈ first ↔ clause ∈ second) →
      ∃ (counts others : List Nat) (last : Catalog),
        catalog.run (first.map (.delete name)) =
          (counts.map fun count => .ok (.removed count), last) ∧
        catalog.run (second.map (.delete name)) =
          (others.map fun count => .ok (.removed count), last) ∧
        counts.sum = others.sum) ∧
    ∀ clause ∈ [none, some ""],
      (∀ columns, ∃ projected,
        catalog.step (.select columns name clause) = (.ok (.selected projected), catalog) ∧
        projected.map OrderedMap.entries =
          table.rows.map fun row => row.cells (Text.items columns)) ∧
      ∃ next,
        catalog.step (.delete name clause) = (.ok (.removed table.rows.length), next) ∧
        catalog.Revision name { table with rows := [] } next ∧
        next.step (.delete name clause) = (.ok (.removed 0), next) := by
  refine ⟨fun clause hclause => ?_, fun first second => run_deletions_congr htable,
    fun clause hclause => ⟨step_select_of_absent htable hclause, ?_⟩⟩
  · intro filter found rest
    have hfound : table.rows.filter (strikes (some clause)) = found :=
      List.filter_congr fun row _ => strikes_of_nonempty hclause row
    have hrest : table.without [some clause] = { table with rows := rest } := by
      simp [Table.without, rest, strikes_of_nonempty hclause, filter]
    obtain ⟨next, hdelete, hrevision, hagain⟩ := step_delete_again htable (some clause)
    have hnext : next.table? name = some (table.without [some clause]) := by
      rw [hrevision.table?_eq, if_pos rfl]
    refine ⟨fun columns => ?_, List.filter_sublist, List.filter_sublist, ?_, next, hfound ▸ hdelete,
      hrest ▸ hrevision, fun columns => ?_, hagain⟩
    · rw [step_select_of_table? htable, Table.select_of_nonempty hclause, hfound]
    · simpa [found, rest] using
        List.filter_append_perm (fun row => decide (row.cell filter.column = filter.value))
          table.rows
    · rw [step_select_of_table? hnext, Table.select_of_nonempty hclause, Table.filter_rows_without]
  · have hall : table.rows.filter (strikes clause) = table.rows :=
      List.filter_eq_self.mpr fun row _ => strikes_of_absent hclause row
    have hnone : table.without [clause] = { table with rows := [] } := by
      simp [Table.without, strikes_of_absent hclause]
    simpa only [hall, hnone] using step_delete_again htable clause

/-- A clause without a separator finds the rows that hold nothing in its column, whether they have
the column or not. -/
theorem deletion_complements_selection_of_nothing :
    let inserted := [Row.ofText "a, b" "1, 2", Row.ofText "a" "1", Row.ofText "a, b" "3"]
    let catalog := (empty.run [.createTable "t" "a", .insert "t" "a, b" "1, 2",
      .insert "t" "a" "1", .insert "t" "a, b" "3"]).2
    catalog.table? "t" = some ⟨Schema.ofText "a", inserted⟩ ∧
      (∀ columns, catalog.step (.select columns "t" (some "b")) =
        (.ok (.selected [Row.ofText "a" "1", Row.ofText "a, b" "3"]), catalog)) ∧
      (∃ next, catalog.step (.delete "t" (some "b")) = (.ok (.removed 2), next) ∧
        next.table? "t" = some ⟨Schema.ofText "a", [Row.ofText "a, b" "1, 2"]⟩ ∧
        next.step (.delete "t" (some "b")) = (.ok (.removed 0), next)) ∧
      ∃ (counts others : List Nat) (last : Catalog),
        catalog.run [.delete "t" (some "b"), .delete "t" (some "a = 1")] =
          (counts.map fun count => .ok (.removed count), last) ∧
        catalog.run [.delete "t" (some "a = 1"), .delete "t" (some "b")] =
          (others.map fun count => .ok (.removed count), last) ∧
        counts.sum = others.sum := by
  intro inserted catalog
  have htable : catalog.table? "t" = some ⟨Schema.ofText "a", inserted⟩ := by decide +kernel
  obtain ⟨hclauses, hruns, -⟩ := deletion_complements_selection htable
  obtain ⟨hselect, -, -, -, next, hdelete, hrevision, -, hagain⟩ := hclauses "b" (by decide)
  have hfound : inserted.filter (fun row => row.cell (Filter.ofText "b").column =
      (Filter.ofText "b").value) = [Row.ofText "a" "1", Row.ofText "a, b" "3"] := by
    decide +kernel
  have hrest : inserted.filter (fun row => row.cell (Filter.ofText "b").column ≠
      (Filter.ofText "b").value) = [Row.ofText "a, b" "1, 2"] := by decide +kernel
  simp only [hfound, hrest] at hselect hdelete hrevision
  refine ⟨htable, hselect, ⟨next, hdelete, ?_, hagain⟩, ?_⟩
  · rw [hrevision.table?_eq, if_pos rfl]
  · exact hruns [some "b", some "a = 1"] [some "a = 1", some "b"] fun clause => by
      simp [or_comm]

end Catalog

end RowStore
