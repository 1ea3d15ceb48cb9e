import RowStore.Database.Site
import RowStore.Execution

namespace RowStore

structure Database where
  execution : Execution := {}
  started : Bool := false
  total : Nat := 0
  failed : Nat := 0
  queue : List Submission := []
  deriving DecidableEq

inductive Refusal
  | notStarted
  | alreadyStarted
  deriving DecidableEq

def Refusal.message : Refusal → String
  | .notStarted => "Database not started"
  | .alreadyStarted => "Database already started"

namespace Database

inductive Error
  | refused (refusal : Refusal)
  | failed (failure : Failure)
  deriving DecidableEq

/-- A `session` starts the database, executes its statements up to the first failure, and stops the
database. The action `work` is the worker's own: it takes up the oldest statement in the queue. -/
inductive Action
  | start
  | stop
  | execute (submission : Submission)
  | executeAsync (submission : Submission)
  | executeMany (submissions : List Submission)
  | submit (submission : Submission)
  | collect
  | session (submissions : List Submission)
  | work
  deriving DecidableEq

inductive Answer
  | done
  | result (rows : Option (List Row))
  | results (rows : List (Option (List Row)))
  | outcomes (outcomes : List Outcome)

structure Stats where
  started : Bool
  tables : Nat
  rows : List (String × Nat)
  total : Nat
  failed : Nat
  deriving DecidableEq

def create (execution : Execution) : Except Execution.Unfit Database :=
  match execution.unfit? with
  | some unfit => .error unfit
  | none => .ok { execution := execution }

end Database

end RowStore
