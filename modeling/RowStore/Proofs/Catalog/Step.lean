import RowStore.Catalog
import RowStore.Proofs.OrderedMap

namespace RowStore

namespace Statement

/-- What becomes of the table of a statement; a table that is missing is `none`. -/
def effect : Statement → Option Table → Option Table
  | createTable _ definitions, _ => some (Table.create definitions)
  | insert _ columns values, table => table.map (·.append (Row.ofText columns values))
  | select .., table => table
  | delete _ clause, table => table.map (·.erase (Filter.ofClause? clause))

/-- What a statement answers, given its table; a table that is missing is `none`. -/
def reply (statement : Statement) (table : Option Table) : Except Failure Reply :=
  match statement, table with
  | createTable _ definitions, table =>
      .ok (.created table.isSome (Table.create definitions).columns.keys)
  | insert .., some _ => .ok .inserted
  | select columns _ clause, some table =>
      .ok (.selected (table.select (Text.items columns) (Filter.ofClause? clause)))
  | delete _ clause, some table =>
      .ok (.removed (table.rows.length - (table.erase (Filter.ofClause? clause)).rows.length))
  | _, none => .error (Catalog.missing statement.table)

def created? : Statement → Option String
  | createTable name _ => some name
  | _ => none

theorem created?_eq_some_iff {statement : Statement} {name : String} :
    statement.created? = some name ↔ ∃ definitions, statement = createTable name definitions := by
  cases statement <;> simp [created?]

theorem effect_none {statement : Statement} (hcreated : statement.created? = none) :
    statement.effect none = none := by
  cases statement with
  | createTable => contradiction
  | insert | select | delete => rfl

theorem eq_none_of_effect {statement : Statement} {table : Option Table}
    (hnone : statement.effect table = none) : table = none := by
  cases statement with
  | createTable => contradiction
  | select => exact hnone
  | insert | delete => exact Option.map_eq_none_iff.mp hnone

end Statement

namespace Catalog

theorem mem_names_iff {catalog : Catalog} {name : String} :
    name ∈ catalog.names ↔ (catalog.table? name).isSome = true :=
  OrderedMap.isSome_get?_iff.symm

theorem names_put_of_table? {catalog : Catalog} {name : String} {old : Table} (table : Table)
    (hold : catalog.table? name = some old) : (catalog.put name table).names = catalog.names :=
  OrderedMap.keys_put_of_get? table hold

theorem put_put (catalog : Catalog) (name : String) (table last : Table) :
    (catalog.put name table).put name last = catalog.put name last := by
  simp only [put, OrderedMap.put_put]

theorem put_of_table? {catalog : Catalog} {name : String} {table : Table}
    (htable : catalog.table? name = some table) : catalog.put name table = catalog := by
  simp only [put, OrderedMap.put_of_get? htable]

theorem table?_put_self (catalog : Catalog) (name : String) (table : Table) :
    (catalog.put name table).table? name = some table := by
  rw [table?_put, if_pos rfl]

/-- A catalog with a table in the place of the one of a name, and all else as it was. -/
structure Revision (catalog : Catalog) (name : String) (table : Table) (next : Catalog) :
    Prop where
  names_eq : next.names = catalog.names
  table?_eq : ∀ other,
    next.table? other = if other = name then some table else catalog.table? other

theorem Revision.put {catalog : Catalog} {name : String} {old : Table}
    (hold : catalog.table? name = some old) (table : Table) :
    catalog.Revision name table (catalog.put name table) :=
  ⟨names_put_of_table? table hold, fun other => table?_put catalog name other table⟩

theorem step_eq (catalog : Catalog) (statement : Statement) :
    catalog.step statement =
      (statement.reply (catalog.table? statement.table),
        (statement.effect (catalog.table? statement.table)).elim catalog
          (catalog.put statement.table)) := by
  cases statement with
  | createTable name definitions => rfl
  | insert name columns values =>
      cases htable : catalog.table? name <;>
        simp [step, apply, insert, htable, Statement.table, Statement.reply, Statement.effect]
  | select columns name clause =>
      cases htable : catalog.table? name <;>
        simp [step, apply, select, htable, Statement.table, Statement.reply, Statement.effect,
          put_of_table?]
  | delete name clause =>
      cases htable : catalog.table? name <;>
        simp [step, apply, delete, htable, Statement.table, Statement.reply, Statement.effect]

theorem reply_step (catalog : Catalog) (statement : Statement) :
    (catalog.step statement).1 = statement.reply (catalog.table? statement.table) := by
  rw [step_eq]

theorem table?_step (catalog : Catalog) (statement : Statement) (name : String) :
    (catalog.step statement).2.table? name =
      if name = statement.table then statement.effect (catalog.table? name)
      else catalog.table? name := by
  rw [step_eq]
  by_cases hname : name = statement.table
  · subst hname
    rw [if_pos rfl]
    cases heffect : statement.effect (catalog.table? statement.table) with
    | none => exact Statement.eq_none_of_effect heffect
    | some table => exact table?_put_self ..
  · rw [if_neg hname]
    cases statement.effect (catalog.table? statement.table) with
    | none => rfl
    | some table => exact (table?_put ..).trans (if_neg hname)

theorem names_step (catalog : Catalog) (statement : Statement) :
    (catalog.step statement).2.names =
      match statement.created? with
      | none => catalog.names
      | some name => if name ∈ catalog.names then catalog.names else catalog.names ++ [name] := by
  cases hcreated : statement.created? with
  | some name =>
      obtain ⟨definitions, rfl⟩ := Statement.created?_eq_some_iff.mp hcreated
      exact OrderedMap.keys_put ..
  | none =>
      rw [step_eq]
      cases htable : catalog.table? statement.table with
      | none => rw [Statement.effect_none hcreated, Option.elim_none]
      | some old =>
          cases statement.effect (some old) with
          | none => rfl
          | some table => exact names_put_of_table? table htable

section Existing

variable {catalog : Catalog} {name : String} {table : Table}
  (htable : catalog.table? name = some table)

include htable

theorem step_insert_of_table? (columns values : String) :
    catalog.step (.insert name columns values) =
      (.ok .inserted, catalog.put name (table.append (Row.ofText columns values))) := by
  rw [step_eq, Statement.table, htable]
  rfl

theorem step_select_of_table? (columns : String) (clause : Option String) :
    catalog.step (.select columns name clause) =
      (.ok (.selected (table.select (Text.items columns) (Filter.ofClause? clause))), catalog) := by
  rw [step_eq, Statement.table, htable, Statement.effect, Option.elim_some, put_of_table? htable]
  rfl

theorem step_delete_of_table? (clause : Option String) :
    let kept := table.erase (Filter.ofClause? clause)
    catalog.step (.delete name clause) =
      (.ok (.removed (table.rows.length - kept.rows.length)), catalog.put name kept) := by
  rw [step_eq, Statement.table, htable]
  rfl

end Existing

theorem step_of_error {catalog : Catalog} {statement : Statement} {failure : Failure}
    (hfailure : (catalog.step statement).1 = .error failure) :
    (catalog.step statement).2 = catalog := by
  cases happly : catalog.apply statement with
  | error other => rw [step_of_apply_error happly]
  | ok replied =>
      rw [step_of_apply_ok happly] at hfailure
      contradiction

theorem step_of_select {catalog : Catalog} {statement : Statement}
    (hkind : statement.kind = .select) : (catalog.step statement).2 = catalog := by
  cases statement with
  | select columns name clause =>
      cases htable : catalog.table? name with
      | none => rw [step_eq, Statement.table, htable]; rfl
      | some table => rw [step_select_of_table? htable]
  | createTable | insert | delete => contradiction

theorem table?_eq_none_of_step {catalog : Catalog} {statement : Statement} {name : String}
    (hnone : (catalog.step statement).2.table? name = none) : catalog.table? name = none := by
  rw [table?_step] at hnone
  split at hnone
  · exact Statement.eq_none_of_effect hnone
  · exact hnone

theorem run_append (catalog : Catalog) (first second : List Statement) :
    catalog.run (first ++ second) =
      ((catalog.run first).1 ++ ((catalog.run first).2.run second).1,
        ((catalog.run first).2.run second).2) := by
  induction first generalizing catalog with
  | nil => rfl
  | cons statement first ih => rw [List.cons_append, run_cons, ih]; rfl

theorem getElem?_run (catalog : Catalog) (statements : List Statement) (index : Nat) :
    (catalog.run statements).1[index]? =
      statements[index]?.map fun statement =>
        ((catalog.run (statements.take index)).2.step statement).1 := by
  induction statements generalizing catalog index with
  | nil => rfl
  | cons statement statements ih =>
      cases index with
      | zero => rfl
      | succ index => exact ih (catalog.step statement).2 index

end Catalog

end RowStore
