import RowStore.Proofs.Database.Refinement

namespace RowStore

open Database

def Outcome.answer (outcome : Outcome) : Except Error Answer :=
  (outcome.mapError .failed).map .result

theorem Outcome.answer_eq_error_iff {outcome : Outcome} {error : Error} :
    outcome.answer = .error error ↔
      ∃ failure, outcome = .error failure ∧ error = .failed failure := by
  cases outcome with
  | ok rows => simp [answer, Except.mapError, Except.map]
  | error failure => simp [answer, Except.mapError, Except.map, eq_comm]

namespace Host

variable {host : Host}

@[simp] theorem started_perform (host : Host) (submission : Submission) :
    (host.perform submission).2.core.started = host.core.started := by
  rw [(host.perform_eq submission).2]

@[simp] theorem queue_perform (host : Host) (submission : Submission) :
    (host.perform submission).2.core.queue = host.core.queue := by
  rw [(host.perform_eq submission).2]

@[simp] theorem started_drain (host : Host) : host.drain.core.started = host.core.started := by
  rw [core_drain]

@[simp] theorem queue_drain (host : Host) : host.drain.core.queue = [] := by
  rw [core_drain]

/-! Relations between hosts that carrying out a text keeps. -/

section Related

variable {Related : Host → Host → Prop} {first second : Host}

/-- A submission comes to the same on two hosts, and leaves them related, if rejecting a text and
carrying out a statement do. -/
theorem perform_related
    (hexecution : first.database.execution = second.database.execution)
    (hrelated : Related first second)
    (hreject : ∀ text, Related (first.reject text).2 (second.reject text).2)
    (hcarryOut : ∀ text statement,
      (first.carryOut text statement).1 = (second.carryOut text statement).1 ∧
        Related (first.carryOut text statement).2 (second.carryOut text statement).2)
    (submission : Submission) :
    (first.perform submission).1 = (second.perform submission).1 ∧
      Related (first.perform submission).2 (second.perform submission).2 := by
  cases hfault : second.database.execution.fault? submission with
  | some fault =>
      rw [perform_of_fault hfault, perform_of_fault (hexecution ▸ hfault)]
      exact ⟨rfl, hrelated⟩
  | none =>
      have hfirst : first.database.execution.fault? submission = none := hexecution ▸ hfault
      cases hparse : Statement.parse submission.text with
      | none =>
          rw [perform_of_unparsed hfirst hparse, perform_of_unparsed hfault hparse]
          exact ⟨rfl, hreject submission.text⟩
      | some statement =>
          rw [perform_of_parse hfirst hparse, perform_of_parse hfault hparse]
          exact hcarryOut submission.text statement

theorem performAll_related
    (hperform : ∀ (first second : Host) (submission : Submission), Related first second →
      (first.perform submission).1 = (second.perform submission).1 ∧
        Related (first.perform submission).2 (second.perform submission).2)
    (hrelated : Related first second) (submissions : List Submission) :
    (first.performAll submissions).1 = (second.performAll submissions).1 ∧
      Related (first.performAll submissions).2 (second.performAll submissions).2 := by
  induction submissions generalizing first second with
  | nil => exact ⟨rfl, hrelated⟩
  | cons submission submissions ih =>
      obtain ⟨houtcome, hnext⟩ := hperform first second submission hrelated
      obtain ⟨houtcomes, hlast⟩ := ih hnext
      rw [performAll_cons, performAll_cons, houtcome, houtcomes]
      exact ⟨rfl, hlast⟩

end Related

theorem step_execute (hstarted : host.core.started = true) (submission : Submission) :
    host.step (.execute submission) =
      ((host.drain.perform submission).1.answer, (host.drain.perform submission).2) := by
  rw [step, execute_of_started hstarted]
  rfl

theorem run_execute (hstarted : host.core.started = true) (submissions : List Submission) :
    (host.run (submissions.map .execute)).1 =
      (host.drain.performAll submissions).1.map Outcome.answer ∧
      (host.run (submissions.map .execute)).2.drain = (host.drain.performAll submissions).2 := by
  induction submissions generalizing host with
  | nil => exact ⟨rfl, rfl⟩
  | cons submission submissions ih =>
      have hidle : (host.drain.perform submission).2.drain = (host.drain.perform submission).2 :=
        drain_of_idle (by rw [queue_perform, queue_drain])
      obtain ⟨hanswers, hlast⟩ := @ih (host.drain.perform submission).2 (by
        rw [started_perform, started_drain, hstarted])
      rw [hidle] at hanswers hlast
      rw [List.map_cons, run_cons, step_execute hstarted, hanswers, performAll_cons]
      exact ⟨rfl, hlast⟩

def queued (host : Host) (submissions : List Submission) : Host :=
  { host with database := { host.database with queue := host.database.queue ++ submissions } }

theorem step_submit (hstarted : host.core.started = true) (submission : Submission) :
    host.step (.submit submission) = (.ok .done, host.queued [submission]) := by
  rw [step, submit_of_started hstarted]
  rfl

theorem run_submit (hstarted : host.core.started = true) (submissions : List Submission) :
    host.run (submissions.map .submit) =
      (submissions.map fun _ => .ok .done, host.queued submissions) := by
  induction submissions generalizing host with
  | nil => simp [queued]
  | cons submission submissions ih =>
      rw [List.map_cons, run_cons, step_submit hstarted]
      dsimp only
      rw [@ih (host.queued [submission]) hstarted]
      simp [queued]

theorem run_append (host : Host) (first second : List Action) :
    host.run (first ++ second) =
      ((host.run first).1 ++ ((host.run first).2.run second).1,
        ((host.run first).2.run second).2) := by
  induction first generalizing host with
  | nil => rfl
  | cons action first ih => rw [List.cons_append, run_cons, ih]; rfl

theorem run_submit_collect (hstarted : host.core.started = true) (hidle : host.core.queue = [])
    (submissions : List Submission) :
    (host.run (submissions.map .submit ++ [.collect])).1 =
      submissions.map (fun _ => .ok .done) ++
        [.ok (.outcomes (host.core.settled ++ (host.performAll submissions).1))] := by
  have hqueue : (host.queued submissions).core.queue = submissions := by
    rw [show (host.queued submissions).core.queue = host.core.queue ++ submissions from rfl, hidle,
      List.nil_append]
  have hsettled : (host.queued submissions).drain.site.settled =
      host.core.settled ++ (host.performAll submissions).1 := by
    have hdrain := (host.queued submissions).core_drain
    rw [hqueue] at hdrain
    rw [(host.performAll_eq submissions).1]
    exact congrArg Core.settled hdrain
  rw [run_append, run_submit hstarted, ← hsettled]
  rfl

theorem run_executeMany (hstarted : host.core.started = true) (hidle : host.core.queue = [])
    (submissions : List Submission) :
    (host.run [.executeMany submissions]).1 =
      [(Outcome.results (host.performAll submissions).1).map .results] := by
  rw [run_cons, run_nil]
  by_cases hempty : submissions = []
  · subst hempty
    rfl
  · rw [step, executeMany_of_started hstarted hempty, drain_of_idle hidle, mapError_allResults]

end Host

end RowStore
