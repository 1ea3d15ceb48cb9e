import RowStore.Filter
import RowStore.Text.Blank

/-!
Tables: a declared schema, and rows in the order of their insertion.

The schema is not consulted by any operation on the rows.
-/

namespace RowStore

abbrev Schema := OrderedMap String (Option String)

namespace Schema

/-- The first word of a definition is a column, which is empty if there is none, and the second
word is its tag. -/
def define (definition : String) : String × Option String :=
  let column := Text.nextWord definition.toList
  let tag := (Text.nextWord column.2).1
  (String.ofList column.1, if tag = [] then none else some (String.ofList tag))

def ofText (definitions : String) : Schema :=
  OrderedMap.ofList ((Text.items definitions).map define)

end Schema

structure Table where
  columns : Schema
  rows : List Row
  deriving DecidableEq

namespace Table

def create (definitions : String) : Table := ⟨Schema.ofText definitions, []⟩

def append (table : Table) (row : Row) : Table := { table with rows := table.rows ++ [row] }

/-- The rows that pass the filter, whole; without a filter all rows, projected. -/
def select (table : Table) (columns : List String) : Option Filter → List Row
  | some filter => table.rows.filter filter.accepts
  | none => table.rows.map fun row => row.project columns

/-- Keeps the rows that do not pass the filter; without a filter it keeps none. -/
def erase (table : Table) : Option Filter → Table
  | some filter => { table with rows := table.rows.filter fun row => !filter.accepts row }
  | none => { table with rows := [] }

end Table

end RowStore
