import RowStore.Failure
import RowStore.Statement.Basic
import RowStore.Table

/-!
The catalog of tables, and what each statement does to it.

Tables stand in the order in which their names were first created. A statement about a name that was
never created fails and changes nothing; no statement fails in any other way.
-/

namespace RowStore

inductive Reply
  | created (replaced : Bool) (columns : List String)
  | inserted
  | selected (rows : List Row)
  | removed (count : Nat)
  deriving DecidableEq

structure Catalog where
  tables : OrderedMap String Table
  deriving DecidableEq

namespace Catalog

def empty : Catalog := ⟨.empty⟩

instance : Inhabited Catalog := ⟨empty⟩

def table? (catalog : Catalog) (name : String) : Option Table := catalog.tables.get? name

def names (catalog : Catalog) : List String := catalog.tables.keys

def put (catalog : Catalog) (name : String) (table : Table) : Catalog :=
  ⟨catalog.tables.put name table⟩

def create (catalog : Catalog) (name definitions : String) : Reply × Catalog :=
  let table := Table.create definitions
  (.created (catalog.tables.contains name) table.columns.keys, catalog.put name table)

def missing (name : String) : Failure := .unknownTable name none

def insert (catalog : Catalog) (name columns values : String) : Except Failure (Reply × Catalog) :=
  match catalog.table? name with
  | none => .error (missing name)
  | some table => .ok (.inserted, catalog.put name (table.append (Row.ofText columns values)))

def select (catalog : Catalog) (columns name : String) (clause : Option String) :
    Except Failure (Reply × Catalog) :=
  match catalog.table? name with
  | none => .error (missing name)
  | some table =>
      .ok (.selected (table.select (Text.items columns) (Filter.ofClause? clause)), catalog)

def delete (catalog : Catalog) (name : String) (clause : Option String) :
    Except Failure (Reply × Catalog) :=
  match catalog.table? name with
  | none => .error (missing name)
  | some table =>
      let kept := table.erase (Filter.ofClause? clause)
      .ok (.removed (table.rows.length - kept.rows.length), catalog.put name kept)

def apply (catalog : Catalog) : Statement → Except Failure (Reply × Catalog)
  | .createTable name definitions => .ok (catalog.create name definitions)
  | .insert name columns values => catalog.insert name columns values
  | .select columns name clause => catalog.select columns name clause
  | .delete name clause => catalog.delete name clause

/-- The outcome of a statement and the catalog after it; a failure leaves the catalog as it was. -/
def step (catalog : Catalog) (statement : Statement) : Except Failure Reply × Catalog :=
  match catalog.apply statement with
  | .ok (reply, catalog) => (.ok reply, catalog)
  | .error failure => (.error failure, catalog)

def run (catalog : Catalog) : List Statement → List (Except Failure Reply) × Catalog
  | [] => ([], catalog)
  | statement :: statements =>
      let (outcome, next) := catalog.step statement
      let (outcomes, last) := next.run statements
      (outcome :: outcomes, last)

def counts (catalog : Catalog) : List (String × Nat) :=
  catalog.tables.entries.map fun entry => (entry.1, entry.2.rows.length)

def tableCount (catalog : Catalog) : Nat := catalog.tables.size

def totalRows (catalog : Catalog) : Nat := (catalog.counts.map Prod.snd).foldr (· + ·) 0

def snapshot (catalog : Catalog) : List (String × Table) := catalog.tables.entries

theorem table?_put (catalog : Catalog) (name other : String) (table : Table) :
    (catalog.put name table).table? other =
      if other = name then some table else catalog.table? other :=
  OrderedMap.get?_put ..

theorem step_of_apply_ok {catalog next : Catalog} {statement : Statement} {reply : Reply}
    (happly : catalog.apply statement = .ok (reply, next)) :
    catalog.step statement = (.ok reply, next) := by
  simp [step, happly]

theorem step_of_apply_error {catalog : Catalog} {statement : Statement} {failure : Failure}
    (happly : catalog.apply statement = .error failure) :
    catalog.step statement = (.error failure, catalog) := by
  simp [step, happly]

@[simp] theorem run_nil (catalog : Catalog) : catalog.run [] = ([], catalog) := rfl

@[simp] theorem run_cons (catalog : Catalog) (statement : Statement) (statements : List Statement) :
    catalog.run (statement :: statements) =
      ((catalog.step statement).1 :: ((catalog.step statement).2.run statements).1,
        ((catalog.step statement).2.run statements).2) := rfl

end Catalog

end RowStore
