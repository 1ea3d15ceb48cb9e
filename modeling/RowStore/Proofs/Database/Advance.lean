import RowStore.Database.Crew
import RowStore.Proofs.Database.Paths

/-!
What an action can do to the store and to the database, in elementary steps: the database starts, it
stops with nothing queued, it is given something to do, it does the oldest of that or, if the wait
for it is interrupted, drops it.
-/

namespace RowStore

open Database

/-- What a database runs of what is submitted to it, with what it comes to one after another. -/
def Execution.deeds (execution : Execution) (index : Nat) (catalog : Catalog)
    (submissions : List Submission) : List Deed :=
  ((submissions.zip (execution.evaluator.run catalog submissions).1).filter fun told =>
    (execution.fault? told.1).isNone).map fun told => ⟨index, told.1, told.2⟩

namespace Execution

variable {execution : Execution}

@[simp] theorem deeds_nil (index : Nat) (catalog : Catalog) :
    execution.deeds index catalog [] = [] := rfl

theorem deeds_of_fault {submission : Submission} {fault : Fault}
    (hfault : execution.fault? submission = some fault) (index : Nat) (catalog : Catalog) :
    execution.deeds index catalog [submission] = [] := by
  simp [deeds, hfault]

theorem deeds_of_returned {submission : Submission}
    (hreturned : execution.fault? submission = none) (index : Nat) (catalog : Catalog) :
    execution.deeds index catalog [submission] =
      [⟨index, submission, (catalog.interpret submission.text).1⟩] := by
  simp [deeds, hreturned, evaluator_of_returned hreturned]

theorem deeds_append (index : Nat) (catalog : Catalog) (first second : List Submission) :
    execution.deeds index catalog (first ++ second) =
      execution.deeds index catalog first ++
        execution.deeds index (execution.evaluator.run catalog first).2 second := by
  simp only [deeds, Evaluator.run_append, List.zip_append (Evaluator.length_run ..).symm,
    List.filter_append, List.map_append]

theorem deeds_cons (index : Nat) (catalog : Catalog) (submission : Submission)
    (submissions : List Submission) :
    execution.deeds index catalog (submission :: submissions) =
      execution.deeds index catalog [submission] ++
        execution.deeds index (execution.evaluator catalog submission).2 submissions :=
  deeds_append index catalog [submission] submissions

end Execution

theorem Store.interpret_answer (store : Store) (text : String) :
    (store.answer text).1 = (store.catalog.interpret text).1 := by
  cases hparse : Statement.parse text with
  | none => simp only [answer, hparse, Catalog.interpret]
  | some statement =>
      rw [Catalog.interpret_of_parse hparse]
      simp only [answer, hparse]
      rfl

/-- Steps in a row, and what they do together. -/
inductive Chain {σ δ : Type} (step : σ → List δ → σ → Prop) : σ → List δ → σ → Prop
  | refl {state : σ} : Chain step state [] state
  | head {first next last : σ} {done rest : List δ} (hstep : step first done next)
      (hchain : Chain step next rest last) : Chain step first (done ++ rest) last

namespace Chain

variable {σ δ : Type} {step : σ → List δ → σ → Prop} {first next last : σ} {done rest : List δ}

theorem single (hstep : step first done last) : Chain step first done last := by
  have hchain := head hstep refl
  rwa [List.append_nil] at hchain

theorem trans (hfirst : Chain step first done next) (hsecond : Chain step next rest last) :
    Chain step first (done ++ rest) last := by
  induction hfirst with
  | refl => exact hsecond
  | head hstep _ ih =>
      rw [List.append_assoc]
      exact .head hstep (ih hsecond)

theorem invariant (Holds : σ → Prop) (hchain : Chain step first done last)
    (hkeeps : ∀ {state next : σ} {done : List δ}, step state done next → Holds state → Holds next)
    (hholds : Holds first) : Holds last := by
  induction hchain with
  | refl => exact hholds
  | head hstep _ ih => exact ih (hkeeps hstep hholds)

end Chain

namespace Host

inductive Advance (index : Nat) : Store × Database → List Deed → Store × Database → Prop
  | start {store : Store} {database : Database} (hstopped : database.started = false) :
      Advance index (store, database) [] (store, { database with started := true })
  | stop {store : Store} {database : Database} (hstarted : database.started = true)
      (hidle : database.queue = []) :
      Advance index (store, database) [] (store, { database with started := false })
  | submit {store : Store} {database : Database} (hstarted : database.started = true)
      (submission : Submission) :
      Advance index (store, database) []
        (store, { database with queue := database.queue ++ [submission] })
  | drop {store : Store} {database : Database} {submission : Submission}
      {queue : List Submission} {fault : Fault} (hqueue : database.queue = submission :: queue)
      (hfault : database.execution.fault? submission = some fault) :
      Advance index (store, database) [] (store, { database with queue := queue })
  | carry {store next : Store} {database : Database} {submission : Submission}
      {queue : List Submission} {outcome : Outcome}
      (hqueue : database.queue = submission :: queue)
      (hreturned : database.execution.fault? submission = none)
      (hanswer : store.answer submission.text = (outcome, next)) :
      Advance index (store, database) [⟨index, submission, outcome⟩]
        (next.record (Statement.kind? submission.text) outcome.status,
          { database with queue := queue }.count outcome.status)

abbrev Advances (index : Nat) : Store × Database → List Deed → Store × Database → Prop :=
  Chain (Advance index)

def desk (host : Host) : Store × Database := (host.site.store, host.database)

variable {host : Host}

theorem desk_conclude (host : Host) (text : String) (statement : Statement)
    (reply : Except Failure Reply) :
    (host.conclude text statement reply).desk =
      (host.site.store.record (some statement.kind) (Outcome.ofReply text reply).status,
        host.database.count (Outcome.ofReply text reply).status) := by
  cases reply <;> rfl

/-- Journal and spans do not bear on the store and the database. -/
theorem desk_perform {submission : Submission}
    (hreturned : host.database.execution.fault? submission = none) :
    (host.perform submission).2.desk =
      let (outcome, next) := host.site.store.answer submission.text
      (next.record (Statement.kind? submission.text) outcome.status,
        host.database.count outcome.status) := by
  cases hparse : Statement.parse submission.text with
  | none =>
      rw [perform_of_unparsed hreturned hparse]
      simp only [Store.answer, Statement.kind?, hparse]
      rfl
  | some statement =>
      rw [perform_of_parse hreturned hparse]
      simp only [Store.answer, Statement.kind?, hparse, carryOut_eq]
      exact desk_conclude (host.applied statement) ..

def withQueue (host : Host) (queue : List Submission) : Host :=
  { host with database := { host.database with queue := queue } }

theorem advances_withQueue {submission : Submission} {queue : List Submission} (index : Nat)
    (hqueue : host.core.queue = submission :: queue) :
    Advances index host.desk (host.core.execution.deeds index host.core.catalog [submission])
      ((host.withQueue queue).perform submission).2.desk := by
  cases hfault : host.core.execution.fault? submission with
  | some fault =>
      rw [Execution.deeds_of_fault hfault, @perform_of_fault (host.withQueue queue) _ _ hfault]
      exact .single (.drop hqueue hfault)
  | none =>
      have houtcome : (host.core.catalog.interpret submission.text).1 = _ :=
        (host.site.store.interpret_answer submission.text).symm
      rw [Execution.deeds_of_returned hfault, houtcome,
        @desk_perform (host.withQueue queue) _ hfault]
      exact .single (.carry hqueue hfault rfl)

theorem desk_work {submission : Submission} {queue : List Submission}
    (hqueue : host.core.queue = submission :: queue) :
    host.work.desk = ((host.withQueue queue).perform submission).2.desk := by
  rw [work_of_cons hqueue]
  rfl

theorem advances_work (host : Host) (index : Nat) :
    Advances index host.desk
      (host.core.execution.deeds index host.core.catalog (host.core.queue.take 1))
      host.work.desk := by
  cases hqueue : host.core.queue with
  | nil =>
      rw [work_of_idle hqueue, List.take_nil, Execution.deeds_nil]
      exact .refl
  | cons submission queue =>
      rw [desk_work hqueue]
      exact advances_withQueue index hqueue

theorem advances_workThrough {queue : List Submission} (index : Nat)
    (hqueue : host.core.queue = queue) :
    Advances index host.desk (host.core.execution.deeds index host.core.catalog queue)
      (host.workThrough queue).desk := by
  induction queue generalizing host with
  | nil =>
      rw [Execution.deeds_nil]
      exact .refl
  | cons submission queue ih =>
      have hwork := host.advances_work index
      have hrest := @ih host.work (by rw [core_work hqueue])
      rw [core_work hqueue] at hrest
      rw [hqueue] at hwork
      rw [Execution.deeds_cons]
      exact hwork.trans hrest

theorem advances_drain (host : Host) (index : Nat) :
    Advances index host.desk
      (host.core.execution.deeds index host.core.catalog host.core.queue) host.drain.desk :=
  advances_workThrough index rfl

/-- What is carried out at once is taken into the empty queue first. -/
theorem advances_perform (hstarted : host.core.started = true) (hidle : host.core.queue = [])
    (index : Nat) (submission : Submission) :
    Advances index host.desk (host.core.execution.deeds index host.core.catalog [submission])
      (host.perform submission).2.desk := by
  have hqueue : (host.queued [submission]).core.queue = [submission] := by
    rw [show (host.queued [submission]).core.queue = host.core.queue ++ [submission] from rfl,
      hidle, List.nil_append]
  have hrestored : (host.queued [submission]).withQueue [] = host := by
    rw [← hidle]
    rfl
  have hperform := advances_withQueue index hqueue
  rw [hrestored] at hperform
  exact .head (.submit hstarted submission) hperform

theorem advances_performAll (hstarted : host.core.started = true) (hidle : host.core.queue = [])
    (index : Nat) (submissions : List Submission) :
    Advances index host.desk (host.core.execution.deeds index host.core.catalog submissions)
      (host.performAll submissions).2.desk := by
  induction submissions generalizing host with
  | nil =>
      rw [Execution.deeds_nil]
      exact .refl
  | cons submission submissions ih =>
      have hrest :=
        @ih (host.perform submission).2 ((started_perform host submission).trans hstarted)
        ((queue_perform host submission).trans hidle)
      rw [(host.perform_eq submission).2] at hrest
      rw [performAll_cons, Execution.deeds_cons]
      exact (advances_perform hstarted hidle index submission).trans hrest

theorem performUntilFailure_eq_performAll (host : Host) (submissions : List Submission) :
    (host.performUntilFailure submissions).2 =
      (host.performAll
        (host.core.execution.evaluator.untilFailure host.core.catalog submissions)).2 := by
  induction submissions generalizing host with
  | nil => rfl
  | cons submission submissions ih =>
      obtain ⟨houtcome, hcore⟩ := host.perform_eq submission
      cases hresult : (host.perform submission).1 with
      | error failure =>
          rw [hresult] at houtcome
          rw [performUntilFailure_cons_error submissions hresult,
            Evaluator.untilFailure_cons_error _ _ houtcome.symm]
          rfl
      | ok rows =>
          rw [hresult] at houtcome
          rw [performUntilFailure_cons_ok submissions hresult,
            Evaluator.untilFailure_cons_ok _ _ houtcome.symm, performAll_cons, ih, hcore]

theorem advances_drain_performAll (hstarted : host.core.started = true) (index : Nat)
    (submissions : List Submission) :
    Advances index host.desk
      (host.core.execution.deeds index host.core.catalog (host.core.queue ++ submissions))
      (host.drain.performAll submissions).2.desk := by
  have hperformed := advances_performAll (host.started_drain.trans hstarted) host.queue_drain
    index submissions
  rw [core_drain] at hperformed
  rw [Execution.deeds_append]
  exact (host.advances_drain index).trans hperformed

/-- What an action makes a database carry out. -/
def due (host : Host) : Action → List Submission
  | .start | .submit _ => []
  | .work => host.core.queue.take 1
  | .collect => host.core.queue
  | .stop => if host.core.started then host.core.queue else []
  | .execute submission | .executeAsync submission =>
      if host.core.started then host.core.queue ++ [submission] else []
  | .executeMany submissions =>
      if submissions = [] then []
      else if host.core.started then host.core.queue ++ submissions else []
  | .session submissions =>
      if host.core.started then []
      else host.core.execution.evaluator.untilFailure host.core.catalog submissions

def deeds (host : Host) (index : Nat) (action : Action) : List Deed :=
  host.core.execution.deeds index host.core.catalog (host.due action)

theorem advances_start (host : Host) (index : Nat) :
    Advances index host.desk [] host.start.2.desk := by
  unfold start
  split
  next => exact .refl
  next hstopped => exact .single (.start (Bool.eq_false_iff.mpr hstopped))

theorem advances_stop (host : Host) (index : Nat) :
    Advances index host.desk (host.deeds index .stop) host.stop.2.desk := by
  cases hstarted : host.core.started with
  | true =>
      have hstop : Chain (Advance index) host.drain.desk [] host.stop.2.desk := by
        rw [stop_of_started hstarted]
        exact .single (.stop (host.started_drain.trans hstarted) host.queue_drain)
      have hchain := (host.advances_drain index).trans hstop
      rw [List.append_nil] at hchain
      simp only [deeds, due, hstarted, if_true]
      exact hchain
  | false =>
      rw [stop_of_stopped hstarted]
      simp only [deeds, due, hstarted, Bool.false_eq_true, if_false, Execution.deeds_nil]
      exact .refl

theorem deeds_stop_of_idle (hidle : host.core.queue = []) (index : Nat) :
    host.deeds index .stop = [] := by
  simp only [deeds, due, hidle, ite_self, Execution.deeds_nil]

theorem advances_session (hidle : host.core.started = false → host.core.queue = [])
    (index : Nat) (submissions : List Submission) :
    Advances index host.desk (host.deeds index (.session submissions))
      (host.session submissions).2.desk := by
  cases hstarted : host.core.started with
  | true =>
      rw [session_of_started hstarted]
      simp only [deeds, due, hstarted, if_true, Execution.deeds_nil]
      exact .refl
  | false =>
      have hcore := core_start hstarted
      let front := host.core.execution.evaluator.untilFailure host.core.catalog submissions
      have hperformed := @advances_performAll host.start.2 (by rw [hcore])
        (by rw [hcore]; exact hidle hstarted) index front
      have hlast : (host.start.2.performUntilFailure submissions).2 =
          (host.start.2.performAll front).2 := by
        rw [performUntilFailure_eq_performAll, hcore]
      have hstop := (host.start.2.performAll front).2.advances_stop index
      rw [deeds_stop_of_idle (by
        rw [(host.start.2.performAll_eq front).2, hcore]
        exact hidle hstarted)] at hstop
      rw [session_of_stopped hstarted, hlast]
      have hchain := ((host.advances_start index).trans hperformed).trans hstop
      rw [List.nil_append, List.append_nil, hcore] at hchain
      simp only [deeds, due, hstarted, Bool.false_eq_true, if_false]
      exact hchain

theorem advances_execute (host : Host) (index : Nat) (submission : Submission) :
    Advances index host.desk (host.deeds index (.execute submission))
      (host.execute submission).2.desk := by
  cases hstarted : host.core.started with
  | true =>
      rw [execute_of_started hstarted]
      simp only [deeds, due, hstarted, if_true]
      exact advances_drain_performAll hstarted index [submission]
  | false =>
      rw [execute_of_stopped hstarted]
      simp only [deeds, due, hstarted, Bool.false_eq_true, if_false, Execution.deeds_nil]
      exact .refl

theorem advances_executeMany (host : Host) (index : Nat) (submissions : List Submission) :
    Advances index host.desk (host.deeds index (.executeMany submissions))
      (host.executeMany submissions).2.desk := by
  by_cases hsubmissions : submissions = []
  · subst hsubmissions
    exact .refl
  · cases hstarted : host.core.started with
    | true =>
        rw [executeMany_of_started hstarted hsubmissions]
        simp only [deeds, due, hsubmissions, hstarted, if_true, if_false]
        exact advances_drain_performAll hstarted index submissions
    | false =>
        rw [executeMany_of_stopped hstarted hsubmissions]
        simp only [deeds, due, hsubmissions, hstarted, Bool.false_eq_true, if_false,
          Execution.deeds_nil]
        exact .refl

theorem advances_submit (host : Host) (index : Nat) (submission : Submission) :
    Advances index host.desk [] (host.submit submission).2.desk := by
  unfold submit
  split
  next hstarted => exact .single (.submit hstarted submission)
  next => exact .refl

/-- Nothing is queued at a database that is stopped. -/
def Orderly (database : Database) : Prop := database.started = false → database.queue = []

theorem advances_step (horderly : Orderly host.database) (index : Nat) (action : Action) :
    Advances index host.desk (host.deeds index action) (host.step action).2.desk := by
  cases action with
  | start =>
      rw [deeds, due, Execution.deeds_nil]
      exact host.advances_start index
  | stop => exact host.advances_stop index
  | execute submission | executeAsync submission => exact host.advances_execute index submission
  | executeMany submissions => exact host.advances_executeMany index submissions
  | submit submission =>
      rw [deeds, due, Execution.deeds_nil]
      exact host.advances_submit index submission
  | collect => exact host.advances_drain index
  | session submissions => exact advances_session horderly index submissions
  | work => exact host.advances_work index

theorem map_mapError_ne_refused {α β : Type} (results : Except Failure α) (wrap : α → β)
    (refusal : Refusal) :
    (results.mapError Error.failed).map wrap ≠ .error (.refused refusal) := by
  cases results <;> simp [Except.mapError, Except.map]

/-- What is refused has no effect, and nothing is run for it. -/
theorem step_of_refused {action : Action} {refusal : Refusal}
    (hrefused : (host.step action).1 = .error (.refused refusal)) (index : Nat) :
    (host.step action).2 = host ∧ host.deeds index action = [] := by
  cases hstarted : host.core.started with
  | true =>
      cases action with
      | start => simp [step, start_of_started hstarted, deeds, due]
      | session submissions => simp [step, session_of_started hstarted, deeds, due, hstarted]
      | stop => simp [step, stop_of_started hstarted, acknowledged] at hrefused
      | submit submission => simp [step, submit_of_started hstarted, acknowledged] at hrefused
      | execute submission | executeAsync submission =>
          rw [step, execute_of_started hstarted] at hrefused
          exact absurd hrefused (map_mapError_ne_refused _ _ _)
      | executeMany submissions =>
          rcases eq_or_ne submissions [] with rfl | hsubmissions
          · contradiction
          · rw [step, executeMany_of_started hstarted hsubmissions] at hrefused
            exact absurd hrefused (map_mapError_ne_refused _ _ _)
      | collect | work => contradiction
  | false =>
      cases action with
      | start => simp [step, start_of_stopped hstarted, acknowledged] at hrefused
      | session submissions =>
          rw [step, session_of_stopped hstarted] at hrefused
          exact absurd hrefused (map_mapError_ne_refused _ _ _)
      | stop => simp [step, stop_of_stopped hstarted, deeds, due, hstarted]
      | submit submission => simp [step, submit_of_stopped hstarted, deeds, due]
      | execute submission | executeAsync submission =>
          simp [step, execute_of_stopped hstarted, deeds, due, hstarted]
      | executeMany submissions =>
          rcases eq_or_ne submissions [] with rfl | hsubmissions
          · contradiction
          · simp [step, executeMany_of_stopped hstarted hsubmissions, deeds, due, hstarted]
      | collect | work => contradiction

theorem Advance.orderly {index : Nat} {first second : Store × Database} {done : List Deed}
    (hadvance : Advance index first done second) (horderly : Orderly first.2) :
    Orderly second.2 := by
  cases hadvance with
  | start hstopped => exact fun h => nomatch h
  | stop hstarted hidle => exact fun _ => hidle
  | submit hstarted submission =>
      intro hstopped
      exact absurd (hstarted.symm.trans hstopped) Bool.noConfusion
  | drop hqueue | carry hqueue =>
      intro hstopped
      have hempty := horderly hstopped
      rw [hqueue] at hempty
      contradiction

end Host

end RowStore
