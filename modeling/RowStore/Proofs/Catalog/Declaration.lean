import RowStore.Proofs.Catalog.Step

namespace RowStore

namespace Statement

/-- A statement without the definitions of a creation. -/
def undeclared : Statement → Statement
  | createTable name _ => createTable name ""
  | statement => statement

theorem table_undeclared (statement : Statement) :
    statement.undeclared.table = statement.table := by
  cases statement <;> rfl

theorem created?_undeclared (statement : Statement) :
    statement.undeclared.created? = statement.created? := by
  cases statement <;> rfl

theorem undeclared_of_kind {statement : Statement} (hkind : statement.kind ≠ .createTable) :
    statement.undeclared = statement := by
  cases statement with
  | createTable => exact absurd rfl hkind
  | insert | select | delete => rfl

theorem eq_of_undeclared_eq {first second : Statement} (hkind : first.kind ≠ .createTable)
    (hsame : first.undeclared = second.undeclared) : second = first := by
  rw [undeclared_of_kind hkind] at hsame
  cases second with
  | createTable name definitions => exact absurd (congrArg kind hsame) hkind
  | insert | select | delete => exact hsame.symm

theorem rows_effect_undeclared (statement : Statement) {table other : Option Table}
    (hrows : table.map Table.rows = other.map Table.rows) :
    (statement.effect table).map Table.rows =
      (statement.undeclared.effect other).map Table.rows := by
  cases statement with
  | createTable => rfl
  | insert name columns values =>
      simpa [undeclared, effect, Table.append, Function.comp_def] using
        congrArg (Option.map (· ++ [Row.ofText columns values])) hrows
  | select => exact hrows
  | delete name clause =>
      cases hfilter : Filter.ofClause? clause with
      | none =>
          simpa [undeclared, effect, Table.erase, hfilter, Function.comp_def] using
            congrArg (Option.map fun _ => ([] : List Row)) hrows
      | some filter =>
          simpa [undeclared, effect, Table.erase, hfilter, Function.comp_def] using
            congrArg (Option.map (List.filter fun row => !filter.accepts row)) hrows

theorem reply_congr {statement : Statement} (hkind : statement.kind ≠ .createTable)
    {table other : Option Table} (hrows : table.map Table.rows = other.map Table.rows) :
    statement.reply table = statement.reply other := by
  cases table with
  | none =>
      rw [Option.map_none, eq_comm, Option.map_eq_none_iff] at hrows
      rw [hrows]
  | some table =>
      obtain ⟨other, rfl, hsame⟩ := Option.map_eq_some_iff.mp hrows.symm
      cases statement with
      | createTable => exact absurd rfl hkind
      | insert => rfl
      | select columns name clause =>
          cases hfilter : Filter.ofClause? clause <;>
            simp only [reply, Table.select, hfilter, hsame]
      | delete name clause =>
          cases hfilter : Filter.ofClause? clause <;>
            simp only [reply, Table.erase, hfilter, hsame]

end Statement

namespace Catalog

variable {former latter : Catalog} {first second : List Statement}

def rows (catalog : Catalog) : OrderedMap String (List Row) :=
  catalog.tables.mapValues Table.rows

theorem get?_rows (catalog : Catalog) (name : String) :
    catalog.rows.get? name = (catalog.table? name).map Table.rows :=
  entryValue?_map Table.rows

theorem keys_rows (catalog : Catalog) : catalog.rows.keys = catalog.names := by
  simp [rows, OrderedMap.mapValues, OrderedMap.keys, names, Function.comp_def]

theorem names_eq_of_rows (hrows : former.rows = latter.rows) : former.names = latter.names := by
  rw [← keys_rows, hrows, keys_rows]

theorem rows_table?_of_rows (hrows : former.rows = latter.rows) (name : String) :
    (former.table? name).map Table.rows = (latter.table? name).map Table.rows := by
  rw [← get?_rows, hrows, get?_rows]

theorem rows_eq (hnames : former.names = latter.names)
    (htables : ∀ name, (former.table? name).map Table.rows = (latter.table? name).map Table.rows) :
    former.rows = latter.rows := by
  refine OrderedMap.Alike.eq_of_keys (fun name => ?_) (by rw [keys_rows, keys_rows, hnames])
  rw [get?_rows, get?_rows, htables]

theorem rows_step_undeclared (hrows : former.rows = latter.rows) (statement : Statement) :
    (former.step statement).2.rows = (latter.step statement.undeclared).2.rows := by
  refine rows_eq ?_ fun name => ?_
  · rw [names_step, names_step, names_eq_of_rows hrows, Statement.created?_undeclared]
  · rw [table?_step, table?_step, Statement.table_undeclared]
    split
    · exact statement.rows_effect_undeclared (rows_table?_of_rows hrows name)
    · exact rows_table?_of_rows hrows name

theorem rows_run_undeclared (hrows : former.rows = latter.rows) (statements : List Statement) :
    (former.run statements).2.rows =
      (latter.run (statements.map Statement.undeclared)).2.rows := by
  induction statements generalizing former latter with
  | nil => exact hrows
  | cons statement statements ih => exact ih (rows_step_undeclared hrows statement)

theorem rows_run_congr (hrows : former.rows = latter.rows)
    (hsame : first.map Statement.undeclared = second.map Statement.undeclared) :
    (former.run first).2.rows = (latter.run second).2.rows := by
  rw [rows_run_undeclared rfl first, hsame, ← rows_run_undeclared hrows.symm second]

theorem rows_run_take (hrows : former.rows = latter.rows)
    (hsame : first.map Statement.undeclared = second.map Statement.undeclared) (index : Nat) :
    (former.run (first.take index)).2.rows = (latter.run (second.take index)).2.rows := by
  refine rows_run_congr hrows ?_
  rw [List.map_take, hsame, ← List.map_take]

/-- Two runs over tables of the same rows, whose statements differ in the definitions of creations
at most: every other statement has the same answer, every creation succeeds in both and replaces a
table in both or in neither, and the tables have the same names, in the same order, and the same
rows. -/
theorem run_undeclared (hrows : former.rows = latter.rows)
    (hsame : first.map Statement.undeclared = second.map Statement.undeclared) :
    (∀ (index : Nat) (statement : Statement), first[index]? = some statement →
      statement.kind ≠ .createTable → second[index]? = some statement ∧
        ∃ answer, (former.run first).1[index]? = some answer ∧
          (latter.run second).1[index]? = some answer) ∧
    (∀ (index : Nat) (name definitions : String),
      first[index]? = some (.createTable name definitions) →
      ∃ replaced columns others,
        (former.run first).1[index]? = some (.ok (.created replaced columns)) ∧
          (latter.run second).1[index]? = some (.ok (.created replaced others))) ∧
    (former.run first).2.names = (latter.run second).2.names ∧
    (∀ name, ((former.run first).2.table? name).map Table.rows =
      ((latter.run second).2.table? name).map Table.rows) := by
  have hlast := rows_run_congr hrows hsame
  have hindex (index : Nat) : first[index]?.map Statement.undeclared =
      second[index]?.map Statement.undeclared := by
    rw [← List.getElem?_map, hsame, List.getElem?_map]
  refine ⟨fun index statement hstatement hkind => ?_, fun index name definitions hcreation => ?_,
    names_eq_of_rows hlast, rows_table?_of_rows hlast⟩
  · obtain ⟨other, hother, hundeclared⟩ :=
      Option.map_eq_some_iff.mp ((hindex index).symm.trans (congrArg (Option.map _) hstatement))
    obtain rfl := Statement.eq_of_undeclared_eq hkind hundeclared.symm
    refine ⟨hother, _, by rw [getElem?_run, hstatement, Option.map_some], ?_⟩
    rw [getElem?_run, hother, Option.map_some, reply_step, reply_step]
    exact congrArg some (Statement.reply_congr hkind
      (rows_table?_of_rows (rows_run_take hrows hsame index).symm _))
  · obtain ⟨other, hother, hundeclared⟩ :=
      Option.map_eq_some_iff.mp ((hindex index).symm.trans (congrArg (Option.map _) hcreation))
    cases other with
    | createTable target others =>
        obtain rfl : target = name := (Statement.createTable.inj hundeclared).1
        have hreplaced := congrArg Option.isSome
          (rows_table?_of_rows (rows_run_take hrows hsame index) target)
        rw [Option.isSome_map, Option.isSome_map] at hreplaced
        refine ⟨((former.run (first.take index)).2.table? target).isSome,
          (Table.create definitions).columns.keys, (Table.create others).columns.keys, ?_, ?_⟩
        · rw [getElem?_run, hcreation, Option.map_some, reply_step]
          rfl
        · rw [getElem?_run, hother, Option.map_some, reply_step, hreplaced]
          rfl
    | insert | select | delete => exact absurd hundeclared (by simp [Statement.undeclared])

/-- A table that is created anew between an insertion and a deletion, with other columns in one run
than in the other. -/
theorem run_undeclared_of_recreation :
    let first : List Statement :=
      [.createTable "t" "a b", .insert "t" "a" "1", .select "a, c" "t" none, .createTable "t" "a b",
        .insert "t" "c, a" "2", .delete "t" (some "a"), .delete "u" none]
    let second : List Statement :=
      [.createTable "t" "", .insert "t" "a" "1", .select "a, c" "t" none, .createTable "t" "c, d e",
        .insert "t" "c, a" "2", .delete "t" (some "a"), .delete "u" none]
    empty.rows = empty.rows ∧ first.map Statement.undeclared = second.map Statement.undeclared ∧
      (∃ answer, (empty.run first).1[2]? = some answer ∧ (empty.run second).1[2]? = some answer ∧
        answer = .ok (.selected [OrderedMap.ofList [("a", some "1"), ("c", none)]])) ∧
      (∃ replaced columns others,
        (empty.run first).1[3]? = some (.ok (.created replaced columns)) ∧
          (empty.run second).1[3]? = some (.ok (.created replaced others)) ∧ columns ≠ others) ∧
      (empty.run first).2.names = (empty.run second).2.names ∧
      ((empty.run first).2.table? "t").map Table.rows =
        ((empty.run second).2.table? "t").map Table.rows ∧
      (empty.run first).2 ≠ (empty.run second).2 := by
  intro first second
  have hsame : first.map Statement.undeclared = second.map Statement.undeclared := by decide
  have hrows : empty.rows = empty.rows := rfl
  obtain ⟨hanswers, hcreations, hnames, htables⟩ := run_undeclared hrows hsame
  obtain ⟨-, answer, hfirst, hsecond⟩ := hanswers 2 (.select "a, c" "t" none) rfl (by decide)
  obtain ⟨replaced, columns, others, hcreation, hother⟩ := hcreations 3 "t" "a b" rfl
  refine ⟨hrows, hsame, ⟨answer, hfirst, hsecond, ?_⟩,
    ⟨replaced, columns, others, hcreation, hother, ?_⟩, hnames, htables "t", ?_⟩
  · have hselected : (empty.run first).1[2]? =
        some (.ok (.selected [OrderedMap.ofList [("a", some "1"), ("c", none)]])) := by
      decide +kernel
    exact Option.some.inj (hfirst.symm.trans hselected)
  · have hcolumns : (empty.run first).1[3]? = some (.ok (.created true ["a"])) := by decide +kernel
    have hothers : (empty.run second).1[3]? = some (.ok (.created true ["c", "d"])) := by
      decide +kernel
    have hfirstColumns := Option.some.inj (hcreation.symm.trans hcolumns)
    have hsecondColumns := Option.some.inj (hother.symm.trans hothers)
    obtain ⟨-, rfl⟩ : replaced = true ∧ columns = ["a"] := by simpa using hfirstColumns
    obtain ⟨-, rfl⟩ : replaced = true ∧ others = ["c", "d"] := by simpa using hsecondColumns
    decide
  · decide +kernel

end Catalog

end RowStore
