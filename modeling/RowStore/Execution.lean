import RowStore.Decimal.Binary64
import RowStore.Failure

namespace RowStore

/-- The seconds that a statement waits after its submission, the number of workers, and whether they
take turns at the store. -/
structure Execution where
  delay : Binary64 := .zero
  workers : Int := 1
  serialized : Bool := false
  deriving DecidableEq

/-- A text, and the fault that a wait for it raises if there is one. A plain text is one whose wait
returns. -/
structure Submission where
  text : String
  fault : Option Fault := none
  deriving DecidableEq

def Submission.plain (text : String) : Submission := { text := text }

@[simp] theorem Submission.text_plain (text : String) : (plain text).text = text := rfl

instance : Coe String Submission := ⟨Submission.plain⟩

namespace Execution

inductive Unfit
  | negativeDelay
  | noWorkers
  deriving DecidableEq

def Unfit.message : Unfit → String
  | negativeDelay => "execution_delay must be non-negative"
  | noWorkers => "max_workers must be at least 1"

/-- The delay is looked at first. -/
def unfit? (execution : Execution) : Option Unfit :=
  if execution.delay.below .zero then some .negativeDelay
  else if execution.workers < 1 then some .noWorkers
  else none

/-- There is no wait without a delay. -/
def fault? (execution : Execution) (submission : Submission) : Option Fault :=
  if Binary64.zero.below execution.delay then submission.fault else none

@[simp] theorem fault?_plain (execution : Execution) (text : String) :
    execution.fault? (.plain text) = none :=
  ite_self none

theorem fault?_of_no_delay {execution : Execution} (hdelay : execution.delay = .zero)
    (submission : Submission) : execution.fault? submission = none := by
  rw [fault?, hdelay]
  rfl

/-- The texts whose wait returns. -/
def awaited (execution : Execution) (submissions : List Submission) : List String :=
  (submissions.filter fun submission => (execution.fault? submission).isNone).map Submission.text

@[simp] theorem awaited_nil (execution : Execution) : execution.awaited [] = [] := rfl

theorem awaited_append (execution : Execution) (first second : List Submission) :
    execution.awaited (first ++ second) =
      execution.awaited first ++ execution.awaited second := by
  rw [awaited, List.filter_append, List.map_append]
  rfl

theorem mem_awaited {execution : Execution} {submissions : List Submission} {text : String} :
    text ∈ execution.awaited submissions ↔
      ∃ submission ∈ submissions, execution.fault? submission = none ∧ submission.text = text := by
  simp [awaited, and_assoc]

variable {execution : Execution} {submission : Submission}

theorem awaited_cons_of_returned (hreturned : execution.fault? submission = none)
    (submissions : List Submission) :
    execution.awaited (submission :: submissions) =
      submission.text :: execution.awaited submissions := by
  simp [awaited, hreturned]

theorem awaited_cons_of_fault {fault : Fault} (hfault : execution.fault? submission = some fault)
    (submissions : List Submission) :
    execution.awaited (submission :: submissions) = execution.awaited submissions := by
  simp [awaited, hfault]

end Execution

end RowStore
