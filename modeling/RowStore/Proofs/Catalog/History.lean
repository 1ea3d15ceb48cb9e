import Mathlib.Data.List.Basic
import RowStore.Proofs.Catalog.Step

/-!
What a catalog holds after a run of statements, told from the run alone.

A name is there once it was created, in the order of first creations. Its schema is that of its last
creation, and its rows are those inserted since then that no later deletion strikes.
-/

namespace RowStore

def strikes : Option String → Row → Bool
  | none, _ => true
  | some clause, row =>
      clause = "" || row.cell (Filter.ofText clause).column = (Filter.ofText clause).value

theorem length_filter_strikes (clause : Option String) (rows : List Row) :
    rows.length - (rows.filter fun row => !strikes clause row).length =
      (rows.filter (strikes clause)).length := by
  have hlength := rows.length_eq_length_filter_add (strikes clause)
  omega

theorem Table.erase_ofClause? (table : Table) (clause : Option String) :
    table.erase (Filter.ofClause? clause) =
      { table with rows := table.rows.filter fun row => !strikes clause row } := by
  cases clause with
  | none => simp [erase, Filter.ofClause?, strikes]
  | some clause =>
      by_cases h : clause = ""
      · simp [erase, Filter.ofClause?, strikes, h]
      · simp [erase, Filter.ofClause?, strikes, h, Filter.accepts]

namespace Statement

/-- Whether a statement takes a row out of the table of a name. -/
def removes (name : String) (row : Row) : Statement → Bool
  | delete target clause => target = name && strikes clause row
  | _ => false

/-- The row that a statement puts into the table of a name. -/
def inserted? (name : String) : Statement → Option Row
  | insert target columns values =>
      if target = name then some (Row.ofText columns values) else none
  | _ => none

end Statement

namespace Catalog

def spared (name : String) (later : List Statement) (row : Row) : Bool :=
  later.all fun statement => !statement.removes name row

/-- The rows that statements put into the table of a name and that none of the later ones takes out
again. -/
def survivors (name : String) : List Statement → List Row
  | [] => []
  | statement :: later =>
      ((statement.inserted? name).filter (spared name later)).toList ++ survivors name later

@[simp] theorem spared_nil (name : String) (row : Row) : spared name [] row = true := rfl

@[simp] theorem spared_cons (name : String) (statement : Statement) (later : List Statement)
    (row : Row) :
    spared name (statement :: later) row =
      (!statement.removes name row && spared name later row) := rfl

theorem table?_step_of_not_created {catalog : Catalog} {statement : Statement} {name : String}
    {table : Table} (htable : catalog.table? name = some table)
    (hcreated : statement.created? ≠ some name) :
    (catalog.step statement).2.table? name =
      some { table with
        rows := table.rows.filter (fun row => !statement.removes name row) ++
          (statement.inserted? name).toList } := by
  rw [table?_step, htable]
  cases statement with
  | createTable target definitions =>
      have hname : name ≠ target := fun h => hcreated (congrArg some h.symm)
      simp [Statement.table, Statement.removes, Statement.inserted?, hname]
  | insert target columns values =>
      by_cases hname : target = name
      · simp [Statement.table, Statement.effect, Statement.removes, Statement.inserted?, hname,
          Table.append]
      · simp [Statement.table, Statement.removes, Statement.inserted?, hname, Ne.symm hname]
  | select columns target clause =>
      simp [Statement.effect, Statement.removes, Statement.inserted?]
  | delete target clause =>
      by_cases hname : target = name
      · simp [Statement.table, Statement.effect, Statement.removes, Statement.inserted?, hname,
          Table.erase_ofClause?]
      · simp [Statement.table, Statement.removes, Statement.inserted?, hname, Ne.symm hname]

theorem table?_run_of_not_created {catalog : Catalog} {statements : List Statement}
    {name : String} {table : Table} (htable : catalog.table? name = some table)
    (hcreated : ∀ statement ∈ statements, statement.created? ≠ some name) :
    (catalog.run statements).2.table? name =
      some { table with
        rows := table.rows.filter (spared name statements) ++ survivors name statements } := by
  induction statements generalizing catalog table with
  | nil =>
      have hrows : table.rows.filter (spared name []) = table.rows :=
        List.filter_eq_self.mpr fun _ _ => rfl
      rw [run_nil, htable, hrows, survivors, List.append_nil]
  | cons statement statements ih =>
      have hstep := table?_step_of_not_created htable (hcreated statement List.mem_cons_self)
      rw [run_cons, ih hstep fun other hother => hcreated other (List.mem_cons_of_mem _ hother),
        survivors, List.filter_append, List.filter_filter, List.append_assoc,
        ← Option.toList_filter]
      congr 4
      funext row
      rw [spared_cons, Bool.and_comm]

theorem isSome_table?_run {catalog : Catalog} {statements : List Statement} {name : String} :
    ((catalog.run statements).2.table? name).isSome = true ↔
      (catalog.table? name).isSome = true ∨
        ∃ statement ∈ statements, statement.created? = some name := by
  rw [← mem_names_iff, ← mem_names_iff]
  induction statements generalizing catalog with
  | nil => simp
  | cons statement statements ih =>
      rw [run_cons, ih, names_step]
      cases hcreated : statement.created? with
      | none => simp [hcreated]
      | some other =>
          simp only [List.mem_cons, exists_eq_or_imp, hcreated, Option.some.injEq]
          split
          · rename_i hmem
            constructor
            · rintro (h | h)
              · exact .inl h
              · exact .inr (.inr h)
            · rintro (h | rfl | h)
              · exact .inl h
              · exact .inl hmem
              · exact .inr h
          · simp only [List.mem_append, List.mem_singleton, or_assoc, eq_comm]

/-- New names follow the old ones in the order of their first creation. -/
theorem names_run (catalog : Catalog) (statements : List Statement) :
    (catalog.run statements).2.names =
      catalog.names ++
        ((statements.filterMap Statement.created?).filter
          fun name => name ∉ catalog.names).eraseDups := by
  induction statements generalizing catalog with
  | nil => simp
  | cons statement statements ih =>
      rw [run_cons, ih, names_step, List.filterMap_cons]
      cases hcreated : statement.created? with
      | none => rfl
      | some name => exact append_new_cons catalog.names name _

section Inserts

variable {catalog : Catalog} {statements : List Statement}
  (hinserts : ∀ statement ∈ statements, statement.kind = .insert)

include hinserts

theorem spared_of_inserts (name : String) (row : Row) : spared name statements row = true := by
  refine List.all_eq_true.mpr fun statement hmem => ?_
  have hkind := hinserts statement hmem
  cases statement with
  | delete => contradiction
  | _ => rfl

theorem survivors_of_inserts (name : String) :
    survivors name statements = statements.filterMap (Statement.inserted? name) := by
  induction statements with
  | nil => rfl
  | cons statement later ih =>
      have hlater := fun other hother => hinserts other (List.mem_cons_of_mem statement hother)
      rw [survivors, ih hlater, List.filterMap_cons]
      cases statement.inserted? name with
      | none => rfl
      | some row => rw [Option.filter_some, if_pos (spared_of_inserts hlater name row)]; rfl

theorem created?_of_inserts : ∀ statement ∈ statements, statement.created? = none := by
  intro statement hmem
  have hkind := hinserts statement hmem
  cases statement with
  | createTable => contradiction
  | _ => rfl

theorem table?_run_of_inserts {name : String} {table : Table}
    (htable : catalog.table? name = some table) :
    (catalog.run statements).2.table? name =
      some { table with
        rows := table.rows ++ statements.filterMap (Statement.inserted? name) } := by
  rw [table?_run_of_not_created htable fun statement hmem => by
    simp [created?_of_inserts hinserts statement hmem]]
  rw [survivors_of_inserts hinserts,
    List.filter_eq_self.mpr fun row _ => spared_of_inserts hinserts name row]

theorem names_run_of_inserts : (catalog.run statements).2.names = catalog.names := by
  have hnone : statements.filterMap Statement.created? = [] :=
    List.filterMap_eq_nil_iff.mpr (created?_of_inserts hinserts)
  rw [names_run, hnone, List.filter_nil, List.eraseDups_nil, List.append_nil]

end Inserts

/-- The catalog after a run on an empty one. A name that is created last with some definitions has
the schema of those definitions, and the rows that survive what follows. -/
theorem run_history (statements : List Statement) (name : String) :
    (((empty.run statements).2.table? name).isSome = true ↔
      ∃ definitions, .createTable name definitions ∈ statements) ∧
    (empty.run statements).2.names = (statements.filterMap Statement.created?).eraseDups ∧
    ∀ earlier definitions later,
      statements = earlier ++ .createTable name definitions :: later →
      (∀ other, .createTable name other ∉ later) →
      (empty.run statements).2.table? name =
        some { columns := Schema.ofText definitions, rows := survivors name later } := by
  refine ⟨?_, ?_, ?_⟩
  · rw [isSome_table?_run]
    simp only [Statement.created?_eq_some_iff]
    constructor
    · rintro (h | ⟨_, hmem, definitions, rfl⟩)
      · contradiction
      · exact ⟨definitions, hmem⟩
    · rintro ⟨definitions, hmem⟩
      exact .inr ⟨_, hmem, definitions, rfl⟩
  · rw [names_run]
    have hnames : empty.names = [] := rfl
    simp [hnames]
  · rintro earlier definitions later rfl hlast
    have hcreated : ∀ statement ∈ later, statement.created? ≠ some name := by
      intro statement hmem h
      obtain ⟨other, rfl⟩ := Statement.created?_eq_some_iff.mp h
      exact hlast other hmem
    have htable : ((empty.run earlier).2.step (.createTable name definitions)).2.table? name =
        some (Table.create definitions) := by
      rw [table?_step, Statement.table, if_pos rfl, Statement.effect]
    rw [run_append, run_cons, table?_run_of_not_created htable hcreated]
    rfl

end Catalog

end RowStore
