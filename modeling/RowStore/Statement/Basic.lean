namespace RowStore

inductive Statement
  | createTable (name definitions : String)
  | insert (name columns values : String)
  | select (columns name : String) (clause : Option String)
  | delete (name : String) (clause : Option String)
  deriving DecidableEq

namespace Statement

inductive Kind
  | createTable
  | insert
  | select
  | delete
  deriving DecidableEq

namespace Kind

def all : List Kind := [createTable, insert, select, delete]

def name : Kind → String
  | createTable => "create_table"
  | insert => "insert"
  | select => "select"
  | delete => "delete"

def title : Kind → String
  | createTable => "CREATE_TABLE"
  | insert => "INSERT"
  | select => "SELECT"
  | delete => "DELETE"

def ofName? (name : String) : Option Kind := all.find? fun kind => kind.name = name

@[simp] theorem ofName?_name (kind : Kind) : ofName? kind.name = some kind := by
  cases kind <;> decide

end Kind

def kind : Statement → Kind
  | createTable .. => .createTable
  | insert .. => .insert
  | select .. => .select
  | delete .. => .delete

def table : Statement → String
  | createTable name _ => name
  | insert name _ _ => name
  | select _ name _ => name
  | delete name _ => name

/-- The operands in the order in which they are written; an absent clause counts as one. -/
def operands : Statement → List (Option String)
  | createTable name definitions => [some name, some definitions]
  | insert name columns values => [some name, some columns, some values]
  | select columns name clause => [some columns, some name, clause]
  | delete name clause => [some name, clause]

def renderClause : Option String → String
  | none => ""
  | some clause => " where " ++ clause

def render : Statement → String
  | createTable name definitions => "create table " ++ name ++ " (" ++ definitions ++ ")"
  | insert name columns values =>
      "insert into " ++ name ++ " (" ++ columns ++ ") values (" ++ values ++ ")"
  | select columns name clause =>
      "select " ++ columns ++ " from " ++ name ++ renderClause clause
  | delete name clause => "delete from " ++ name ++ renderClause clause

end Statement

end RowStore
