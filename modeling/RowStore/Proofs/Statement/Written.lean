import RowStore.Statement.Parser

/-!
The written forms of statements.

A text can be cut into a statement if it is the written form of the statement, the names in it are
runs of the letters a to z, and its other operands are nonempty texts of one line. Cuts of one text
are of one kind, and differ only in where the first operand that is not a name ends.
-/

namespace RowStore.Statement

structure IsName (text : String) : Prop where
  nonempty : text ≠ ""
  letters : ∀ c ∈ text.toList, 'a' ≤ c ∧ c ≤ 'z'

structure IsOperand (text : String) : Prop where
  nonempty : text ≠ ""
  one_line : '\n' ∉ text.toList

def Admissible : Statement → Prop
  | createTable name definitions => IsName name ∧ IsOperand definitions
  | insert name columns values => IsName name ∧ IsOperand columns ∧ IsOperand values
  | select columns name clause =>
      IsOperand columns ∧ IsName name ∧ ∀ text ∈ clause, IsOperand text
  | delete name clause => IsName name ∧ ∀ text ∈ clause, IsOperand text

def leading : Statement → String
  | createTable _ definitions => definitions
  | insert _ columns _ => columns
  | select columns _ _ => columns
  | delete _ clause => clause.getD ""

structure IsCut (text : String) (statement : Statement) : Prop where
  admissible : statement.Admissible
  render_eq : statement.render = text

/-! The characters of a written form: a keyword, and what follows it. -/

def keyword : Kind → String
  | .createTable => "create table "
  | .insert => "insert into "
  | .select => "select "
  | .delete => "delete from "

def clauseBody : Option String → List Char
  | none => []
  | some clause => " where ".toList ++ clause.toList

def body : Statement → List Char
  | createTable name definitions =>
      name.toList ++ (" (".toList ++ (definitions.toList ++ [')']))
  | insert name columns values =>
      name.toList ++ (" (".toList ++
        (columns.toList ++ (") values (".toList ++ (values.toList ++ [')']))))
  | select columns name clause =>
      columns.toList ++ (" from ".toList ++ (name.toList ++ clauseBody clause))
  | delete name clause => name.toList ++ clauseBody clause

@[simp] theorem body_createTable (name definitions : String) :
    (createTable name definitions).body =
      name.toList ++ (" (".toList ++ (definitions.toList ++ [')'])) := rfl

@[simp] theorem body_insert (name columns values : String) :
    (insert name columns values).body =
      name.toList ++ (" (".toList ++
        (columns.toList ++ (") values (".toList ++ (values.toList ++ [')'])))) := rfl

@[simp] theorem body_select (columns name : String) (clause : Option String) :
    (select columns name clause).body =
      columns.toList ++ (" from ".toList ++ (name.toList ++ clauseBody clause)) := rfl

@[simp] theorem body_delete (name : String) (clause : Option String) :
    (delete name clause).body = name.toList ++ clauseBody clause := rfl

@[simp] theorem clauseBody_none : clauseBody none = [] := rfl

@[simp] theorem clauseBody_some (clause : String) :
    clauseBody (some clause) = " where ".toList ++ clause.toList := rfl

theorem toList_renderClause (clause : Option String) :
    (renderClause clause).toList = clauseBody clause := by
  cases clause with
  | none => exact String.toList_empty
  | some clause =>
      change (" where " ++ clause).toList = _
      rw [String.toList_append, clauseBody_some]

theorem toList_render (statement : Statement) :
    statement.render.toList = (keyword statement.kind).toList ++ statement.body := by
  cases statement with
  | createTable name definitions =>
      change ("create table " ++ name ++ " (" ++ definitions ++ ")").toList = _
      simp only [String.toList_append, body_createTable, List.append_assoc]
      rfl
  | insert name columns values =>
      change ("insert into " ++ name ++ " (" ++ columns ++ ") values (" ++ values ++ ")").toList = _
      simp only [String.toList_append, body_insert, List.append_assoc]
      rfl
  | select columns name clause =>
      change ("select " ++ columns ++ " from " ++ name ++ renderClause clause).toList = _
      simp only [String.toList_append, body_select, toList_renderClause, List.append_assoc]
      rfl
  | delete name clause =>
      change ("delete from " ++ name ++ renderClause clause).toList = _
      simp only [String.toList_append, body_delete, toList_renderClause, List.append_assoc]
      rfl

theorem keyword_append_inj {first second : Kind} {rest other : List Char}
    (h : (keyword first).toList ++ rest = (keyword second).toList ++ other) : first = second := by
  have hinitial := congrArg List.head? h
  cases first <;> cases second <;> simp [keyword] at hinitial ⊢

theorem IsCut.kind_eq {text : String} {first second : Statement}
    (hfirst : IsCut text first) (hsecond : IsCut text second) : first.kind = second.kind := by
  have htext : (keyword first.kind).toList ++ first.body =
      (keyword second.kind).toList ++ second.body := by
    rw [← toList_render, ← toList_render, hfirst.render_eq, hsecond.render_eq]
  exact keyword_append_inj htext

theorem IsCut.body_eq {text : String} {first second : Statement}
    (hfirst : IsCut text first) (hsecond : IsCut text second) : first.body = second.body := by
  have htext : first.render.toList = second.render.toList := by
    rw [hfirst.render_eq, hsecond.render_eq]
  rw [toList_render, toList_render, hfirst.kind_eq hsecond] at htext
  exact List.append_cancel_left htext

end RowStore.Statement
