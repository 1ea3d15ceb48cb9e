import RowStore.Database.Host

/-!
A plain interpreter of statements, and of the actions on a database.

The interpreter has no worker and no queue. It carries out each text that is accepted at once, keeps
the outcomes that are still to be collected, and logs what it has carried out.
-/

namespace RowStore

open Database

/-- What an input comes to on a catalog, and the catalog after it. -/
abbrev Evaluator (α : Type) := Catalog → α → Outcome × Catalog

/-- Parses a text and applies its statement. A selection results in its rows, and any other
statement in nothing. -/
def Catalog.interpret : Evaluator String := fun catalog text =>
  match Statement.parse text with
  | none => (.error (.malformed text), catalog)
  | some statement =>
      match catalog.apply statement with
      | .error failure => (.error (failure.stamp text), catalog)
      | .ok (.selected rows, next) => (.ok (some rows), next)
      | .ok (_, next) => (.ok none, next)

/-- A text whose wait is interrupted is not looked at. -/
def Execution.evaluator (execution : Execution) : Evaluator Submission :=
  fun catalog submission =>
    match execution.fault? submission with
    | some fault => (.error (.interrupted fault), catalog)
    | none => catalog.interpret submission.text

section Execution

variable {execution : Execution} {submission : Submission}

theorem Execution.evaluator_of_fault {fault : Fault}
    (hfault : execution.fault? submission = some fault) (catalog : Catalog) :
    execution.evaluator catalog submission = (.error (.interrupted fault), catalog) := by
  simp only [evaluator, hfault]

theorem Execution.evaluator_of_returned (hreturned : execution.fault? submission = none)
    (catalog : Catalog) :
    execution.evaluator catalog submission = catalog.interpret submission.text := by
  simp only [evaluator, hreturned]

end Execution

namespace Evaluator

variable {α : Type} (evaluate : Evaluator α)

def run (catalog : Catalog) : List α → List Outcome × Catalog
  | [] => ([], catalog)
  | input :: inputs =>
      let (outcome, next) := evaluate catalog input
      let (outcomes, last) := run next inputs
      (outcome :: outcomes, last)

@[simp] theorem run_nil (catalog : Catalog) : evaluate.run catalog [] = ([], catalog) := rfl

@[simp] theorem run_cons (catalog : Catalog) (input : α) (inputs : List α) :
    evaluate.run catalog (input :: inputs) =
      ((evaluate catalog input).1 :: (evaluate.run (evaluate catalog input).2 inputs).1,
        (evaluate.run (evaluate catalog input).2 inputs).2) := rfl

theorem run_append (catalog : Catalog) (first second : List α) :
    evaluate.run catalog (first ++ second) =
      ((evaluate.run catalog first).1 ++ (evaluate.run (evaluate.run catalog first).2 second).1,
        (evaluate.run (evaluate.run catalog first).2 second).2) := by
  induction first generalizing catalog with
  | nil => rfl
  | cons input first ih => rw [List.cons_append, run_cons, ih]; rfl

theorem length_run (catalog : Catalog) (inputs : List α) :
    (evaluate.run catalog inputs).1.length = inputs.length := by
  induction inputs generalizing catalog with
  | nil => rfl
  | cons input inputs ih => rw [run_cons, List.length_cons, ih, List.length_cons]

/-- The inputs up to the first that fails, that one included. -/
def untilFailure (catalog : Catalog) (inputs : List α) : List α :=
  inputs.take (((evaluate.run catalog inputs).1.takeWhile Except.isOk).length + 1)

theorem untilFailure_cons_error {catalog : Catalog} {input : α} {failure : Failure}
    (inputs : List α) (hfailure : (evaluate catalog input).1 = .error failure) :
    evaluate.untilFailure catalog (input :: inputs) = [input] := by
  unfold untilFailure
  rw [run_cons, hfailure, List.takeWhile_cons_of_neg (by simp [Except.isOk, Except.toBool]),
    List.length_nil, List.take_succ_cons, List.take_zero]

theorem untilFailure_cons_ok {catalog : Catalog} {input : α} {rows : Option (List Row)}
    (inputs : List α) (hrows : (evaluate catalog input).1 = .ok rows) :
    evaluate.untilFailure catalog (input :: inputs) =
      input :: evaluate.untilFailure (evaluate catalog input).2 inputs := by
  unfold untilFailure
  rw [run_cons, hrows, List.takeWhile_cons_of_pos rfl, List.length_cons, List.take_succ_cons]

end Evaluator

theorem Execution.catalog_run_evaluator (execution : Execution) (catalog : Catalog)
    (submissions : List Submission) :
    (execution.evaluator.run catalog submissions).2 =
      (Catalog.interpret.run catalog (execution.awaited submissions)).2 := by
  induction submissions generalizing catalog with
  | nil => rfl
  | cons submission submissions ih =>
      rw [Evaluator.run_cons, ih]
      cases hfault : execution.fault? submission with
      | some fault => rw [evaluator_of_fault hfault, awaited_cons_of_fault hfault]
      | none =>
          rw [evaluator_of_returned hfault, awaited_cons_of_returned hfault, Evaluator.run_cons]

theorem Execution.outcomes_run_evaluator (execution : Execution) (catalog : Catalog)
    (submissions : List Submission) :
    ((submissions.zip (execution.evaluator.run catalog submissions).1).filter fun told =>
        (execution.fault? told.1).isNone).map Prod.snd =
      (Catalog.interpret.run catalog (execution.awaited submissions)).1 := by
  induction submissions generalizing catalog with
  | nil => rfl
  | cons submission submissions ih =>
      rw [Evaluator.run_cons, List.zip_cons_cons]
      cases hfault : execution.fault? submission with
      | some fault =>
          rw [List.filter_cons_of_neg (by simp [hfault]), ih, evaluator_of_fault hfault,
            awaited_cons_of_fault hfault]
      | none =>
          rw [List.filter_cons_of_pos (by simp [hfault]), List.map_cons, ih,
            evaluator_of_returned hfault, awaited_cons_of_returned hfault, Evaluator.run_cons]

theorem Execution.run_evaluator_of_returned {execution : Execution}
    {submissions : List Submission}
    (hreturned : ∀ submission ∈ submissions, execution.fault? submission = none)
    (catalog : Catalog) :
    execution.evaluator.run catalog submissions =
      Catalog.interpret.run catalog (submissions.map Submission.text) := by
  induction submissions generalizing catalog with
  | nil => rfl
  | cons submission submissions ih =>
      rw [Evaluator.run_cons, evaluator_of_returned (hreturned _ List.mem_cons_self),
        ih fun other hother => hreturned other (List.mem_cons_of_mem _ hother)]
      rfl

def Outcome.failure? : Outcome → Option Failure
  | .error failure => some failure
  | .ok _ => none

def Outcome.results (outcomes : List Outcome) : Except Error (List (Option (List Row))) :=
  match outcomes.findSome? failure? with
  | some failure => .error (.failed failure)
  | none => .ok (outcomes.filterMap Except.toOption)

@[simp] theorem Outcome.results_nil : results [] = .ok [] := rfl

@[simp] theorem Outcome.results_cons_error (failure : Failure) (outcomes : List Outcome) :
    results (.error failure :: outcomes) = .error (.failed failure) := rfl

@[simp] theorem Outcome.results_cons_ok (rows : Option (List Row)) (outcomes : List Outcome) :
    results (.ok rows :: outcomes) = (results outcomes).map (rows :: ·) := by
  simp only [results, List.findSome?_cons, failure?]
  cases outcomes.findSome? failure? <;> rfl

structure Interpreter where
  catalog : Catalog
  started : Bool := false
  owed : List Outcome := []
  log : List (Submission × Outcome) := []

namespace Interpreter

def refusal? (interpreter : Interpreter) : Action → Option Refusal
  | .start | .session _ => if interpreter.started then some .alreadyStarted else none
  | .stop | .execute _ | .executeAsync _ | .submit _ =>
      if interpreter.started then none else some .notStarted
  | .executeMany submissions =>
      if interpreter.started || submissions.isEmpty then none else some .notStarted
  | .collect | .work => none

variable (evaluate : Evaluator Submission)

/-- What an accepted action has carried out. -/
def carried (interpreter : Interpreter) : Action → List Submission
  | .execute submission | .executeAsync submission | .submit submission => [submission]
  | .executeMany submissions => submissions
  | .session submissions => evaluate.untilFailure interpreter.catalog submissions
  | .start | .stop | .collect | .work => []

def outcomes (interpreter : Interpreter) (action : Action) : List Outcome :=
  (evaluate.run interpreter.catalog (interpreter.carried evaluate action)).1

def answer (interpreter : Interpreter) (action : Action) : Except Error Answer :=
  match action with
  | .execute _ | .executeAsync _ =>
      (Outcome.results (interpreter.outcomes evaluate action)).map fun results =>
        .result results.head?.join
  | .executeMany _ | .session _ =>
      (Outcome.results (interpreter.outcomes evaluate action)).map .results
  | .collect => .ok (.outcomes interpreter.owed)
  | .start | .stop | .submit _ | .work => .ok .done

def next (interpreter : Interpreter) (action : Action) : Interpreter :=
  let submissions := interpreter.carried evaluate action
  let outcomes := interpreter.outcomes evaluate action
  { catalog := (evaluate.run interpreter.catalog submissions).2
    started := match action with
      | .start => true
      | .stop | .session _ => false
      | _ => interpreter.started
    owed := match action with
      | .submit _ => interpreter.owed ++ outcomes
      | .collect => []
      | _ => interpreter.owed
    log := interpreter.log ++ submissions.zip outcomes }

def step (interpreter : Interpreter) (action : Action) : Except Error Answer × Interpreter :=
  match interpreter.refusal? action with
  | some refusal => (.error (.refused refusal), interpreter)
  | none => (interpreter.answer evaluate action, interpreter.next evaluate action)

def run (interpreter : Interpreter) : List Action → List (Except Error Answer) × Interpreter
  | [] => ([], interpreter)
  | action :: actions =>
      let (answer, next) := interpreter.step evaluate action
      let (answers, last) := run next actions
      (answer :: answers, last)

@[simp] theorem run_nil (interpreter : Interpreter) :
    interpreter.run evaluate [] = ([], interpreter) := rfl

@[simp] theorem run_cons (interpreter : Interpreter) (action : Action) (actions : List Action) :
    interpreter.run evaluate (action :: actions) =
      ((interpreter.step evaluate action).1 ::
          ((interpreter.step evaluate action).2.run evaluate actions).1,
        ((interpreter.step evaluate action).2.run evaluate actions).2) := rfl

variable {evaluate : Evaluator Submission} {interpreter : Interpreter} {action : Action}

theorem step_of_refused {refusal : Refusal}
    (hrefusal : interpreter.refusal? action = some refusal) :
    interpreter.step evaluate action = (.error (.refused refusal), interpreter) := by
  rw [step, hrefusal]

theorem step_of_accepted (haccepted : interpreter.refusal? action = none) :
    interpreter.step evaluate action =
      (interpreter.answer evaluate action, interpreter.next evaluate action) := by
  rw [step, haccepted]

@[simp] theorem catalog_next (evaluate : Evaluator Submission) (interpreter : Interpreter)
    (action : Action) :
    (interpreter.next evaluate action).catalog =
      (evaluate.run interpreter.catalog (interpreter.carried evaluate action)).2 := rfl

@[simp] theorem log_next (evaluate : Evaluator Submission) (interpreter : Interpreter)
    (action : Action) :
    (interpreter.next evaluate action).log =
      interpreter.log ++
        (interpreter.carried evaluate action).zip (interpreter.outcomes evaluate action) := rfl

/-- The log of an interpreter tells how its catalog came about from an earlier one. -/
def Logged (evaluate : Evaluator Submission) (origin : Catalog) (interpreter : Interpreter) :
    Prop :=
  evaluate.run origin (interpreter.log.map Prod.fst) =
    (interpreter.log.map Prod.snd, interpreter.catalog)

theorem Logged.next {origin : Catalog} (hlogged : interpreter.Logged evaluate origin)
    (action : Action) : (interpreter.next evaluate action).Logged evaluate origin := by
  have hlength : (interpreter.outcomes evaluate action).length =
      (interpreter.carried evaluate action).length := evaluate.length_run ..
  unfold Logged at hlogged ⊢
  rw [log_next, catalog_next, List.map_append, List.map_append,
    List.map_fst_zip (Nat.le_of_eq hlength.symm), List.map_snd_zip (Nat.le_of_eq hlength),
    Evaluator.run_append, hlogged]
  rfl

theorem Logged.step {origin : Catalog} (hlogged : interpreter.Logged evaluate origin)
    (action : Action) : (interpreter.step evaluate action).2.Logged evaluate origin := by
  unfold Interpreter.step
  split
  · exact hlogged
  · exact hlogged.next action

theorem Logged.run {origin : Catalog} (hlogged : interpreter.Logged evaluate origin)
    (actions : List Action) : (interpreter.run evaluate actions).2.Logged evaluate origin := by
  induction actions generalizing interpreter with
  | nil => exact hlogged
  | cons action actions ih => exact ih (hlogged.step action)

variable (evaluate)

def submittedBy (interpreter : Interpreter) : Action → List Outcome
  | .submit submission =>
      match interpreter.refusal? (.submit submission) with
      | some _ => []
      | none => interpreter.outcomes evaluate (.submit submission)
  | _ => []

def submitted (interpreter : Interpreter) : List Action → List Outcome
  | [] => []
  | action :: actions =>
      interpreter.submittedBy evaluate action ++
        submitted (interpreter.step evaluate action).2 actions

end Interpreter

def Database.collectedBy : Except Error Answer → List Outcome
  | .ok (.outcomes outcomes) => outcomes
  | _ => []

def Database.collected (answers : List (Except Error Answer)) : List Outcome :=
  answers.flatMap collectedBy

namespace Interpreter

variable {evaluate : Evaluator Submission} {interpreter : Interpreter}

@[simp] theorem collectedBy_map_result {α : Type} (result : Except Error α)
    (rows : α → Option (List Row)) :
    collectedBy (result.map fun value => .result (rows value)) = [] := by
  cases result <;> rfl

@[simp] theorem collectedBy_map_results (results : Except Error (List (Option (List Row)))) :
    collectedBy (results.map .results) = [] := by
  cases results <;> rfl

/-- What an action hands out and what is owed after it is what was owed before and what it
submits. -/
theorem collectedBy_step (action : Action) :
    collectedBy (interpreter.step evaluate action).1 ++ (interpreter.step evaluate action).2.owed =
      interpreter.owed ++ interpreter.submittedBy evaluate action := by
  cases hrefusal : interpreter.refusal? action with
  | some refusal =>
      rw [step_of_refused hrefusal]
      cases action <;> simp [collectedBy, submittedBy, hrefusal]
  | none =>
      rw [step_of_accepted hrefusal]
      cases action with
      | collect => simp [answer, next, collectedBy, submittedBy]
      | submit submission => simp [answer, next, collectedBy, submittedBy, hrefusal]
      | start => simp [answer, next, collectedBy, submittedBy]
      | stop => simp [answer, next, collectedBy, submittedBy]
      | work => simp [answer, next, collectedBy, submittedBy]
      | execute submission => simp [answer, next, submittedBy]
      | executeAsync submission => simp [answer, next, submittedBy]
      | executeMany submissions => simp [answer, next, submittedBy]
      | session submissions => simp [answer, next, submittedBy]

theorem collected_run (actions : List Action) :
    collected (interpreter.run evaluate actions).1 ++
        (interpreter.run evaluate actions).2.owed =
      interpreter.owed ++ interpreter.submitted evaluate actions := by
  induction actions generalizing interpreter with
  | nil => simp [collected, submitted]
  | cons action actions ih =>
      rw [run_cons, collected, List.flatMap_cons, List.append_assoc, ← collected, ih,
        ← List.append_assoc, collectedBy_step, submitted, List.append_assoc]

end Interpreter

end RowStore
