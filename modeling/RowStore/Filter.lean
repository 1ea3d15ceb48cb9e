import RowStore.Row
import RowStore.Text.Split

namespace RowStore

structure Filter where
  column : String
  value : Option String
  deriving DecidableEq

namespace Filter

/-- The first two pieces of a clause between the separators; what follows them is ignored. A clause
of one piece asks for a missing value. -/
def ofText (clause : String) : Filter :=
  match Text.pieces " = ".toList clause.toList with
  | [] => ⟨clause, none⟩
  | [column] => ⟨String.ofList column, none⟩
  | column :: value :: _ => ⟨String.ofList column, some (String.ofList value)⟩

/-- An absent or empty clause is no filter. -/
def ofClause? : Option String → Option Filter
  | none => none
  | some clause => if clause = "" then none else some (ofText clause)

def accepts (filter : Filter) (row : Row) : Bool :=
  row.cell filter.column = filter.value

example : ofText "a = b = c" = ⟨"a", some "b"⟩ := by decide

example : ofText "a=b" = ⟨"a=b", none⟩ := by decide

end Filter

end RowStore
