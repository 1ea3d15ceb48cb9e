import RowStore.Proofs.OrderedMap
import RowStore.Row

namespace RowStore.Row

open Text

/-! Columns and values by position. -/

theorem map_fst_pair (columns values : List String) :
    (pair columns values).map Prod.fst = columns := by
  induction columns generalizing values with
  | nil => rfl
  | cons column columns ih =>
      cases values with
      | nil => exact congrArg (List.cons column) (ih [])
      | cons value values => exact congrArg (List.cons column) (ih values)

theorem pair_cons (column : String) (columns values : List String) :
    pair (column :: columns) values = (column, values[0]?) :: pair columns values.tail := by
  cases values <;> rfl

theorem pair_append_cons (before : List String) (column : String) (after values : List String) :
    pair (before ++ column :: after) values =
      pair before values ++
        (column, values[before.length]?) :: pair after (values.drop (before.length + 1)) := by
  induction before generalizing values with
  | nil => simp [pair_cons, pair]
  | cons first before ih =>
      rw [List.cons_append, pair_cons, ih, pair_cons]
      simp

theorem pair_map (cells : List (String × String)) :
    pair (cells.map Prod.fst) (cells.map Prod.snd) =
      cells.map fun cell => (cell.1, some cell.2) := by
  induction cells with
  | nil => rfl
  | cons cell cells ih => exact congrArg (List.cons _) ih

/-! Inserted rows. -/

theorem keys_ofText (columns values : String) :
    (ofText columns values).keys = (items columns).eraseDups := by
  rw [ofText, OrderedMap.keys_ofList, map_fst_pair]

theorem get?_ofText {columns values column : String} {before after : List String}
    (hcolumns : items columns = before ++ column :: after) (hlast : column ∉ after) :
    (ofText columns values).get? column = some (items values)[before.length]? := by
  rw [ofText, hcolumns, pair_append_cons]
  exact OrderedMap.get?_ofList_append_cons (by rwa [map_fst_pair])

theorem get?_of_not_mem_items {columns column : String} (hcolumn : column ∉ items columns)
    (values : String) : (ofText columns values).get? column = none := by
  rw [← Option.not_isSome_iff_eq_none, OrderedMap.isSome_get?_iff, keys_ofText,
    List.mem_eraseDups]
  exact hcolumn

/-- The last of the places that name a column has a value. -/
def IsGiven (columns values : List String) (column : String) : Prop :=
  ∃ before after, columns = before ++ column :: after ∧ column ∉ after ∧
    before.length < values.length

theorem exists_last_of_mem {columns : List String} {column : String} (hcolumn : column ∈ columns) :
    ∃ before after, columns = before ++ column :: after ∧ column ∉ after := by
  obtain ⟨after, before, hsplit, hlast⟩ :=
    List.eq_append_cons_of_mem (List.mem_reverse.mpr hcolumn)
  refine ⟨before.reverse, after.reverse, ?_, fun hmem => hlast (List.mem_reverse.mp hmem)⟩
  rw [List.reverse_eq_append_iff] at hsplit
  simpa using hsplit

/-! Cells and projections. -/

theorem cell_eq_none_iff {row : Row} {column : String} :
    row.cell column = none ↔ column ∉ row.keys ∨ row.get? column = some none := by
  rw [cell, ← OrderedMap.isSome_get?_iff]
  cases row.get? column with
  | none => simp
  | some value => simp

/-- An inserted row holds nothing in a column unless the last place that names it has a value. -/
theorem cell_ofText_eq_none_iff {columns values column : String} :
    (ofText columns values).cell column = none ↔
      ¬ IsGiven (items columns) (items values) column := by
  constructor
  · rintro hnone ⟨before, after, hcolumns, hlast, hvalue⟩
    rw [cell, get?_ofText hcolumns hlast, Option.join_some, List.getElem?_eq_none_iff] at hnone
    exact absurd hvalue (Nat.not_lt.mpr hnone)
  · intro hgiven
    by_cases hcolumn : column ∈ items columns
    · obtain ⟨before, after, hcolumns, hlast⟩ := exists_last_of_mem hcolumn
      rw [cell, get?_ofText hcolumns hlast, Option.join_some, List.getElem?_eq_none_iff]
      exact Nat.not_lt.mp fun hvalue => hgiven ⟨before, after, hcolumns, hlast, hvalue⟩
    · rw [cell, get?_of_not_mem_items hcolumn, Option.join_none]

theorem cell_of_mem {row : Row} {column value : String}
    (hmem : (column, some value) ∈ row.entries) : row.cell column = some value := by
  have hfound : row.get? column = some (some value) :=
    (entryValue?_eq_some_iff row.nodup).mpr hmem
  rw [cell, hfound, Option.join_some]

/-- What a row holds in some columns, each column where it first occurs. -/
def cells (row : Row) (columns : List String) : List (String × Option String) :=
  columns.eraseDups.map fun column => (column, row.cell column)

theorem entries_project (row : Row) (columns : List String) :
    (row.project columns).entries = row.cells columns :=
  OrderedMap.entries_ofList_map ..

theorem entries_eq_map_cell (row : Row) :
    row.entries = row.keys.map fun column => (column, row.cell column) := by
  refine OrderedMap.entries_eq_map_keys fun column hcolumn => ?_
  obtain ⟨value, hvalue⟩ := Option.isSome_iff_exists.mp (OrderedMap.isSome_get?_iff.mpr hcolumn)
  rw [cell, hvalue, Option.join_some]

theorem project_of_keys {row : Row} {columns : List String}
    (hkeys : row.keys = columns.eraseDups) : row.project columns = row := by
  apply OrderedMap.ext_entries
  rw [entries_project, cells, ← hkeys, ← entries_eq_map_cell]

theorem project_ofText (columns values : String) :
    (ofText columns values).project (items columns) = ofText columns values :=
  project_of_keys (keys_ofText columns values)

end RowStore.Row
