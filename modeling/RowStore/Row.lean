import RowStore.OrderedMap
import RowStore.Text.Listing

namespace RowStore

abbrev Row := OrderedMap String (Option String)

namespace Row

/-- Pairs columns with values by position. Columns without a value hold nothing, and values without
a column are dropped. -/
def pair : (columns values : List String) → List (String × Option String)
  | [], _ => []
  | column :: columns, [] => (column, none) :: pair columns []
  | column :: columns, value :: values => (column, some value) :: pair columns values

def ofText (columns values : String) : Row :=
  OrderedMap.ofList (pair (Text.items columns) (Text.items values))

def cell (row : Row) (column : String) : Option String :=
  (row.get? column).join

def project (row : Row) (columns : List String) : Row :=
  OrderedMap.ofList (columns.map fun column => (column, row.cell column))

end Row

end RowStore
