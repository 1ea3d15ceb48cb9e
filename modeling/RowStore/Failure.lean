namespace RowStore

structure Fault where
  title : String
  message : String
  deriving DecidableEq

/-- A failure of a statement carries its text, once it is known. A statement whose wait is
interrupted is not looked at. -/
inductive Failure
  | malformed (statement : String)
  | unknownTable (name : String) (statement : Option String)
  | interrupted (fault : Fault)
  deriving DecidableEq

namespace Failure

def fault : Failure → Fault
  | malformed statement => ⟨"StatementSyntaxError", "Syntax error: " ++ statement⟩
  | unknownTable name _ => ⟨"UnknownTableError", "Unknown table: " ++ name⟩
  | interrupted fault => fault

def title (failure : Failure) : String := failure.fault.title

def message (failure : Failure) : String := failure.fault.message

def statement : Failure → Option String
  | malformed statement => some statement
  | unknownTable _ statement => statement
  | interrupted _ => none

/-- Adds the text of the statement to a failure that lacks it. -/
def stamp (statement : String) : Failure → Failure
  | unknownTable name none => unknownTable name (some statement)
  | failure => failure

@[simp] theorem fault_stamp (statement : String) (failure : Failure) :
    (failure.stamp statement).fault = failure.fault := by
  unfold stamp; split <;> rfl

end Failure

end RowStore
