import RowStore.Proofs.Database.Advance

namespace RowStore

open Database

def Database.Action.submissions : Action → List Submission
  | .execute submission | .executeAsync submission | .submit submission => [submission]
  | .executeMany submissions | .session submissions => submissions
  | .start | .stop | .collect | .work => []

namespace Interpreter

def submissions (interpreter : Interpreter) : List Submission := interpreter.log.map Prod.fst

def accepted (evaluate : Evaluator Submission) (interpreter : Interpreter) (action : Action) :
    List Submission :=
  match interpreter.refusal? action with
  | some _ => []
  | none => interpreter.carried evaluate action

variable {evaluate : Evaluator Submission} {interpreter : Interpreter} {action : Action}

theorem accepted_of_refused {refusal : Refusal}
    (hrefusal : interpreter.refusal? action = some refusal) :
    interpreter.accepted evaluate action = [] := by
  rw [accepted, hrefusal]

theorem accepted_of_accepted (haccepted : interpreter.refusal? action = none) :
    interpreter.accepted evaluate action = interpreter.carried evaluate action := by
  rw [accepted, haccepted]

theorem submissions_step (interpreter : Interpreter) (action : Action) :
    (interpreter.step evaluate action).2.submissions =
      interpreter.submissions ++ interpreter.accepted evaluate action := by
  cases hrefusal : interpreter.refusal? action with
  | some refusal =>
      rw [step_of_refused hrefusal, accepted_of_refused hrefusal, List.append_nil]
  | none =>
      have hlength : (interpreter.outcomes evaluate action).length =
          (interpreter.carried evaluate action).length := evaluate.length_run ..
      rw [step_of_accepted hrefusal, accepted_of_accepted hrefusal, submissions, log_next,
        List.map_append, List.map_fst_zip (Nat.le_of_eq hlength.symm)]
      rfl

theorem accepted_subset (evaluate : Evaluator Submission) (interpreter : Interpreter)
    (action : Action) :
    interpreter.accepted evaluate action ⊆ action.submissions := by
  cases hrefusal : interpreter.refusal? action with
  | some refusal =>
      rw [accepted_of_refused hrefusal]
      exact List.nil_subset _
  | none =>
      rw [accepted_of_accepted hrefusal]
      cases action with
      | session submissions => exact List.take_subset ..
      | _ => exact List.Subset.refl _

theorem submissions_run_subset (actions : List Action) :
    (interpreter.run evaluate actions).2.submissions ⊆
      interpreter.submissions ++ actions.flatMap Action.submissions := by
  induction actions generalizing interpreter with
  | nil => exact List.subset_append_left ..
  | cons action actions ih =>
      intro submission hsubmission
      rw [run_cons] at hsubmission
      rw [List.flatMap_cons, ← List.append_assoc, List.mem_append, List.mem_append]
      rcases List.mem_append.mp (ih hsubmission) with hstep | hlater
      · rw [submissions_step, List.mem_append] at hstep
        exact .inl (hstep.imp_right fun haccepted => accepted_subset _ _ _ haccepted)
      · exact .inr hlater

end Interpreter

namespace Host

variable {execution : Execution} {host : Host} {interpreter : Interpreter}

theorem queue_performAll (host : Host) (submissions : List Submission) :
    (host.performAll submissions).2.core.queue = host.core.queue := by
  rw [(host.performAll_eq submissions).2]

theorem queue_stop (hstarted : host.core.started = true) : host.stop.2.core.queue = [] := by
  rw [core_stop hstarted, core_drain]

theorem queue_work (host : Host) : host.work.core.queue = host.core.queue.drop 1 := by
  cases hqueue : host.core.queue with
  | nil => rw [work_of_idle hqueue, hqueue, List.drop_nil]
  | cons submission queue =>
      rw [core_work hqueue]
      rfl

theorem queue_session (hstopped : host.core.started = false) (submissions : List Submission) :
    (host.session submissions).2.core.queue = [] := by
  rw [session_of_stopped hstopped]
  refine queue_stop ?_
  rw [(host.start.2.performUntilFailure_eq submissions).2, core_start hstopped]

theorem due_append_collect (host : Host) (interpreter : Interpreter) :
    host.due .collect ++ (host.step .collect).2.core.queue =
      host.core.queue ++ interpreter.accepted execution.evaluator .collect := by
  have hcollected : (host.step .collect).2.core.queue = [] := host.queue_drain
  rw [hcollected]
  rfl

theorem due_append_work (host : Host) (interpreter : Interpreter) :
    host.due .work ++ (host.step .work).2.core.queue =
      host.core.queue ++ interpreter.accepted execution.evaluator .work := by
  have haccepted : interpreter.accepted execution.evaluator .work = [] := rfl
  rw [haccepted, due, step, queue_work, List.take_append_drop, List.append_nil]

theorem due_append_of_started (hhost : host.core.started = true)
    (hstarted : interpreter.started = true) (action : Action) :
    host.due action ++ (host.step action).2.core.queue =
      host.core.queue ++ interpreter.accepted execution.evaluator action := by
  cases action with
  | start =>
      simp [due, step, start_of_started hhost, Interpreter.accepted, Interpreter.refusal?, hstarted]
  | session submissions =>
      simp [due, step, session_of_started hhost, hhost, Interpreter.accepted,
        Interpreter.refusal?, hstarted]
  | stop =>
      simp [due, step, hhost, queue_stop hhost, Interpreter.accepted, Interpreter.refusal?,
        Interpreter.carried, hstarted]
  | execute submission | executeAsync submission =>
      simp [due, step, execute_of_started hhost, hhost, Interpreter.accepted,
        Interpreter.refusal?, Interpreter.carried, hstarted]
  | executeMany submissions =>
      by_cases hempty : submissions = []
      · simp [due, step, executeMany, hempty, Interpreter.accepted, Interpreter.refusal?,
          Interpreter.carried]
      · simp [due, step, executeMany_of_started hhost hempty, hempty, hhost, queue_performAll,
          Interpreter.accepted, Interpreter.refusal?, Interpreter.carried, hstarted]
  | submit submission =>
      have hqueued : (host.queued [submission]).core.queue = host.core.queue ++ [submission] := rfl
      simp [due, step_submit hhost, hqueued, Interpreter.accepted, Interpreter.refusal?,
        Interpreter.carried, hstarted]
  | collect => exact due_append_collect host interpreter
  | work => exact due_append_work host interpreter

theorem Follows.due_append_of_stopped (hfollows : host.Follows execution interpreter)
    (hstopped : interpreter.started = false) (action : Action) :
    host.due action ++ (host.step action).2.core.queue =
      host.core.queue ++ interpreter.accepted execution.evaluator action := by
  have hlevel := hfollows.core_of_stopped hstopped
  have hhost : host.core.started = false := by rw [hlevel]; exact hstopped
  have hidle : host.core.queue = [] := by rw [hlevel]; rfl
  cases action with
  | start =>
      simp [due, step, core_start hhost, Interpreter.accepted, Interpreter.refusal?,
        Interpreter.carried, hstopped]
  | stop | submit submission | execute submission | executeAsync submission =>
      simp [due, step, stop_of_stopped hhost, submit_of_stopped hhost, execute_of_stopped hhost,
        hhost, Interpreter.accepted, Interpreter.refusal?, hstopped]
  | executeMany submissions =>
      by_cases hempty : submissions = []
      · simp [due, step, executeMany, hempty, Interpreter.accepted, Interpreter.refusal?,
          Interpreter.carried]
      · simp [due, step, executeMany_of_stopped hhost hempty, hempty, hhost, Interpreter.accepted,
          Interpreter.refusal?, hstopped]
  | collect => exact due_append_collect host interpreter
  | session submissions =>
      simp [due, step, queue_session hhost, hlevel, level, hstopped, Interpreter.accepted,
        Interpreter.refusal?, Interpreter.carried]
  | work => exact due_append_work host interpreter

/-- What an action runs, and what it leaves in the queue, is what was queued and what it adds. -/
theorem Follows.due_append (hfollows : host.Follows execution interpreter) (action : Action) :
    host.due action ++ (host.step action).2.core.queue =
      host.core.queue ++ interpreter.accepted execution.evaluator action := by
  cases hstarted : interpreter.started with
  | true => exact due_append_of_started (hfollows.started_eq.trans hstarted) hstarted action
  | false => exact hfollows.due_append_of_stopped hstarted action

end Host

end RowStore
