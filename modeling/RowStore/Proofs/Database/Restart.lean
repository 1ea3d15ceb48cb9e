import RowStore.Proofs.Database.Advance

/-!
A restart in the middle of a run.

To stop a database is to work through its queue, and to start it again puts it back as it was. So a
run goes on as if nothing had happened, only with less in the queue, and the journal tells of it.
-/

namespace RowStore

open Database

namespace Host

variable {host first second : Host}

/-! What waits in the queue does not bear on the statement at hand. -/

theorem carryOut_withQueue (host : Host) (queue : List Submission) (text : String)
    (statement : Statement) :
    (host.withQueue queue).carryOut text statement =
      ((host.carryOut text statement).1, (host.carryOut text statement).2.withQueue queue) := by
  rw [carryOut_eq, carryOut_eq]
  simp only [show (host.withQueue queue).site = host.site from rfl]
  cases (host.site.store.dispatch statement).1 <;> rfl

theorem perform_withQueue (host : Host) (queue : List Submission) (submission : Submission) :
    (host.withQueue queue).perform submission =
      ((host.perform submission).1, (host.perform submission).2.withQueue queue) := by
  obtain ⟨houtcome, hnext⟩ := @perform_related
    (fun former latter => former = latter.withQueue queue) (host.withQueue queue) host rfl rfl
    (fun _ => rfl)
    (fun text statement => by rw [carryOut_withQueue]; exact ⟨rfl, rfl⟩) submission
  exact Prod.ext houtcome hnext

theorem work_of_queue {submission : Submission} {queue : List Submission}
    (hqueue : host.core.queue = submission :: queue) :
    host.work =
      { (host.perform submission).2.withQueue queue with
        site :=
          { (host.perform submission).2.site with
            settled :=
              (host.perform submission).2.site.settled ++ [(host.perform submission).1] } } := by
  have hperform := host.perform_withQueue queue submission
  rw [work_of_cons hqueue]
  simp only [show { host with database := { host.database with queue := queue } } =
    host.withQueue queue from rfl, hperform]
  rfl

theorem drain_work (host : Host) : host.work.drain = host.drain := by
  cases hqueue : host.core.queue with
  | nil => rw [work_of_idle hqueue]
  | cons submission queue =>
      rw [drain, drain, show host.work.database.queue = queue from by
        rw [work_of_queue hqueue]; rfl, show host.database.queue = submission :: queue from hqueue,
        workThrough_cons]

theorem work_queued {submission : Submission} {queue submissions : List Submission}
    (hqueue : host.core.queue = submission :: queue) :
    (host.queued submissions).work = host.work.queued submissions := by
  have hlonger : (host.queued submissions).core.queue = submission :: (queue ++ submissions) :=
    congrArg (· ++ submissions) hqueue
  rw [work_of_queue hqueue, work_of_queue hlonger, show host.queued submissions =
    host.withQueue (host.database.queue ++ submissions) from rfl, perform_withQueue]
  rfl

theorem drain_queued (host : Host) (submissions : List Submission) :
    (host.queued submissions).drain = (host.drain.queued submissions).drain := by
  induction hqueue : host.core.queue generalizing host with
  | nil => rw [drain_of_idle hqueue]
  | cons submission queue ih =>
      have hwork : host.work.core.queue = queue := by rw [core_work hqueue]
      rw [← drain_work, work_queued hqueue, ih host.work hwork, drain_work]

/-! The journal bears on nothing. -/

def unlogged (host : Host) : Host := { host with site := { host.site with journal := [] } }

theorem carryOut_unlogged (host : Host) (text : String) (statement : Statement) :
    (host.carryOut text statement).1 = (host.unlogged.carryOut text statement).1 ∧
      (host.carryOut text statement).2.unlogged =
        (host.unlogged.carryOut text statement).2.unlogged := by
  rw [carryOut_eq, carryOut_eq,
    show host.unlogged.site.store.dispatch statement = host.site.store.dispatch statement from rfl]
  cases (host.site.store.dispatch statement).1 <;> exact ⟨rfl, rfl⟩

theorem perform_unlogged (host : Host) (submission : Submission) :
    (host.perform submission).1 = (host.unlogged.perform submission).1 ∧
      (host.perform submission).2.unlogged = (host.unlogged.perform submission).2.unlogged :=
  @perform_related (fun former latter => former.unlogged = latter.unlogged) host host.unlogged
    rfl rfl (fun _ => rfl) host.carryOut_unlogged submission

theorem perform_unlogged_congr (hsame : first.unlogged = second.unlogged)
    (submission : Submission) :
    (first.perform submission).1 = (second.perform submission).1 ∧
      (first.perform submission).2.unlogged = (second.perform submission).2.unlogged := by
  rw [(first.perform_unlogged submission).1, (first.perform_unlogged submission).2, hsame]
  exact ⟨(second.perform_unlogged submission).1.symm, (second.perform_unlogged submission).2.symm⟩

theorem performAll_unlogged_congr (hsame : first.unlogged = second.unlogged)
    (submissions : List Submission) :
    (first.performAll submissions).1 = (second.performAll submissions).1 ∧
      (first.performAll submissions).2.unlogged = (second.performAll submissions).2.unlogged :=
  performAll_related (fun _ _ submission hsame => perform_unlogged_congr hsame submission) hsame
    submissions

theorem core_eq_of_unlogged (hsame : first.unlogged = second.unlogged) :
    first.core = second.core := by
  change first.unlogged.core = second.unlogged.core
  rw [hsame]

theorem performUntilFailure_unlogged_congr (hsame : first.unlogged = second.unlogged)
    (submissions : List Submission) :
    (first.performUntilFailure submissions).1.mapError Error.failed =
        (second.performUntilFailure submissions).1.mapError Error.failed ∧
      (first.performUntilFailure submissions).2.unlogged =
        (second.performUntilFailure submissions).2.unlogged := by
  have hcore := core_eq_of_unlogged hsame
  rw [(first.performUntilFailure_eq submissions).1, (second.performUntilFailure_eq submissions).1,
    performUntilFailure_eq_performAll, performUntilFailure_eq_performAll, hcore]
  exact ⟨rfl, (performAll_unlogged_congr hsame _).2⟩

theorem work_unlogged_congr (hsame : first.unlogged = second.unlogged) :
    first.work.unlogged = second.work.unlogged := by
  have hcore := core_eq_of_unlogged hsame
  cases hqueue : first.core.queue with
  | nil =>
      have hsecond : second.core.queue = [] := hcore ▸ hqueue
      rw [work_of_idle hqueue, work_of_idle hsecond, hsame]
  | cons submission queue =>
      obtain ⟨houtcome, hnext⟩ := perform_unlogged_congr hsame submission
      rw [work_of_queue hqueue, work_of_queue (hcore ▸ hqueue), houtcome]
      exact congrArg (fun host : Host =>
        { host.withQueue queue with
          site :=
            { host.site with
              settled := host.site.settled ++ [(second.perform submission).1] } }) hnext

theorem drain_unlogged_congr (hsame : first.unlogged = second.unlogged) :
    first.drain.unlogged = second.drain.unlogged := by
  induction hqueue : first.core.queue generalizing first second with
  | nil =>
      rw [drain_of_idle hqueue, drain_of_idle (core_eq_of_unlogged hsame ▸ hqueue), hsame]
  | cons submission queue ih =>
      have hwork : first.work.core.queue = queue := by rw [core_work hqueue]
      rw [← drain_work first, ← drain_work second]
      exact ih (work_unlogged_congr hsame) hwork

theorem start_unlogged_congr (hsame : first.unlogged = second.unlogged) :
    first.start.1 = second.start.1 ∧ first.start.2.unlogged = second.start.2.unlogged := by
  have hstarted : first.database.started = second.database.started :=
    congrArg Core.started (core_eq_of_unlogged hsame)
  unfold start
  rw [hstarted]
  split
  · exact ⟨rfl, hsame⟩
  · exact ⟨rfl, congrArg (fun host : Host =>
      { host with database := { host.database with started := true } }) hsame⟩

theorem stop_unlogged_congr (hsame : first.unlogged = second.unlogged) :
    first.stop.1 = second.stop.1 ∧ first.stop.2.unlogged = second.stop.2.unlogged := by
  have hstarted : first.database.started = second.database.started :=
    congrArg Core.started (core_eq_of_unlogged hsame)
  unfold stop
  rw [hstarted]
  split
  · exact ⟨rfl, congrArg (fun host : Host =>
      { host with database := { host.database with started := false } })
        (drain_unlogged_congr hsame)⟩
  · exact ⟨rfl, hsame⟩

theorem step_unlogged_congr (hsame : first.unlogged = second.unlogged) (action : Action) :
    (first.step action).1 = (second.step action).1 ∧
      (first.step action).2.unlogged = (second.step action).2.unlogged := by
  have hstarted : first.database.started = second.database.started :=
    congrArg Core.started (core_eq_of_unlogged hsame)
  have hdrained := drain_unlogged_congr hsame
  cases action with
  | start =>
      obtain ⟨hanswer, hnext⟩ := start_unlogged_congr hsame
      exact ⟨congrArg acknowledged hanswer, hnext⟩
  | stop =>
      obtain ⟨hanswer, hnext⟩ := stop_unlogged_congr hsame
      exact ⟨congrArg acknowledged hanswer, hnext⟩
  | execute submission | executeAsync submission =>
      obtain ⟨houtcome, hnext⟩ := perform_unlogged_congr hdrained submission
      simp only [step, execute, hstarted]
      split
      · exact ⟨by rw [houtcome], hnext⟩
      · exact ⟨rfl, hsame⟩
  | executeMany submissions =>
      obtain ⟨houtcomes, hnext⟩ := performAll_unlogged_congr hdrained submissions
      simp only [step, executeMany, hstarted]
      split
      · exact ⟨rfl, hsame⟩
      · split
        · exact ⟨by rw [houtcomes], hnext⟩
        · exact ⟨rfl, hsame⟩
  | submit submission =>
      cases hsecond : second.database.started with
      | true =>
          rw [step_submit (hstarted.trans hsecond), step_submit hsecond]
          exact ⟨rfl, congrArg (fun host : Host => host.queued [submission]) hsame⟩
      | false =>
          rw [step, step, submit_of_stopped (hstarted.trans hsecond), submit_of_stopped hsecond]
          exact ⟨rfl, hsame⟩
  | collect =>
      have hsettled : first.drain.site.settled = second.drain.site.settled :=
        congrArg Core.settled (core_eq_of_unlogged hdrained)
      refine ⟨by rw [step, step, collect, collect, hsettled], ?_⟩
      exact congrArg (fun host : Host => { host with site := { host.site with settled := [] } })
        hdrained
  | session submissions =>
      cases hsecond : second.database.started with
      | true =>
          rw [step, step, session_of_started (hstarted.trans hsecond), session_of_started hsecond]
          exact ⟨rfl, hsame⟩
      | false =>
          obtain ⟨-, hrunning⟩ := start_unlogged_congr hsame
          obtain ⟨hresults, hlast⟩ := performUntilFailure_unlogged_congr hrunning submissions
          rw [step, step, session_of_stopped (hstarted.trans hsecond), session_of_stopped hsecond,
            hresults]
          exact ⟨rfl, (stop_unlogged_congr hlast).2⟩
  | work => exact ⟨rfl, work_unlogged_congr hsame⟩

/-- To work through the queue first makes no difference to what an action comes to. -/
theorem step_drain (horderly : Orderly host.database) (action : Action) :
    (host.drain.step action).1 = (host.step action).1 ∧
      (host.drain.step action).2.drain = (host.step action).2.drain := by
  have hidle : host.drain.drain = host.drain := drain_of_idle host.queue_drain
  cases hstarted : host.core.started with
  | false =>
      rw [drain_of_idle (horderly hstarted)]
      exact ⟨rfl, rfl⟩
  | true =>
      have hdrain : host.drain.core.started = true := host.started_drain.trans hstarted
      cases action with
      | start => simp [step, start_of_started hstarted, start_of_started hdrain, hidle]
      | session submissions =>
          simp [step, session_of_started hstarted, session_of_started hdrain, hidle]
      | stop => simp [step, stop_of_started hstarted, stop_of_started hdrain, hidle]
      | execute submission | executeAsync submission =>
          simp [step, execute_of_started hstarted, execute_of_started hdrain, hidle]
      | executeMany submissions =>
          rcases eq_or_ne submissions [] with rfl | hsubmissions
          · exact ⟨rfl, hidle⟩
          · simp [step, executeMany_of_started hstarted hsubmissions,
              executeMany_of_started hdrain hsubmissions, hidle]
      | submit submission =>
          rw [step_submit hstarted, step_submit hdrain]
          exact ⟨rfl, (host.drain_queued [submission]).symm⟩
      | collect => simp [step, collect, hidle]
      | work => exact ⟨rfl, by rw [step, step, drain_work, drain_work, hidle]⟩

/-- Two hosts that come to the same, but for the journal, once the queue of each is worked
through. -/
structure Abreast (first second : Host) : Prop where
  drained : first.drain.unlogged = second.drain.unlogged
  orderly : Orderly first.database
  orderly_other : Orderly second.database

theorem orderly_step (horderly : Orderly host.database) (action : Action) :
    Orderly (host.step action).2.database :=
  (advances_step horderly 0 action).invariant (fun state => Orderly state.2) Advance.orderly
    horderly

namespace Abreast

theorem step (habreast : first.Abreast second) (action : Action) :
    (first.step action).1 = (second.step action).1 ∧
      (first.step action).2.Abreast (second.step action).2 := by
  obtain ⟨hfirst, hfirstLast⟩ := step_drain habreast.orderly action
  obtain ⟨hsecond, hsecondLast⟩ := step_drain habreast.orderly_other action
  obtain ⟨hanswer, hlast⟩ := step_unlogged_congr habreast.drained action
  refine ⟨by rw [← hfirst, hanswer, hsecond], ?_, orderly_step habreast.orderly action,
    orderly_step habreast.orderly_other action⟩
  rw [← hfirstLast, ← hsecondLast]
  exact drain_unlogged_congr hlast

theorem run (habreast : first.Abreast second) (actions : List Action) :
    (first.run actions).1 = (second.run actions).1 ∧
      (first.run actions).2.Abreast (second.run actions).2 := by
  induction actions generalizing first second with
  | nil => exact ⟨rfl, habreast⟩
  | cons action actions ih =>
      obtain ⟨hanswer, hnext⟩ := habreast.step action
      obtain ⟨hanswers, hlast⟩ := ih hnext
      rw [run_cons, run_cons, hanswer, hanswers]
      exact ⟨rfl, hlast⟩

end Abreast

theorem orderly_run (horderly : Orderly host.database) (actions : List Action) :
    Orderly (host.run actions).2.database := by
  induction actions generalizing host with
  | nil => exact horderly
  | cons action actions ih => exact ih (orderly_step horderly action)

theorem run_stop_start (hstarted : host.core.started = true) :
    (host.run [.stop, .start]).1 = [.ok .done, .ok .done] ∧
      (host.run [.stop, .start]).2.unlogged = host.drain.unlogged := by
  have hdrain : host.drain.database.started = true := host.started_drain.trans hstarted
  simp only [run_cons, run_nil, step, stop_of_started hstarted]
  refine ⟨rfl, ?_⟩
  rw [start, if_neg (by simp [announce])]
  simp only [unlogged, announce, ← hdrain]
  rfl

theorem abreast_restart (horderly : Orderly host.database) (hstarted : host.core.started = true) :
    host.Abreast (host.run [.stop, .start]).2 := by
  refine ⟨?_, horderly, orderly_run horderly _⟩
  rw [drain_unlogged_congr (run_stop_start hstarted).2, drain_of_idle host.queue_drain]

/-- A restart put into a run leaves all other answers as they are, and the same behind it once the
queue is worked through. -/
theorem run_restart (horderly : Orderly host.database) {front : List Action}
    (hstarted : (host.run front).2.core.started = true) (back : List Action) :
    (host.run (front ++ .stop :: .start :: back)).1 =
        (host.run front).1 ++ .ok .done :: .ok .done :: ((host.run front).2.run back).1 ∧
      (host.run (front ++ .stop :: .start :: back)).2.drain.unlogged =
        (host.run (front ++ back)).2.drain.unlogged := by
  have hmiddle := orderly_run horderly front
  obtain ⟨hanswers, hlast⟩ := (abreast_restart hmiddle hstarted).run back
  rw [run_append, run_append, show Action.stop :: .start :: back = [.stop, .start] ++ back from rfl,
    run_append, (run_stop_start hstarted).1, hanswers]
  exact ⟨rfl, hlast.drained.symm⟩

end Host

end RowStore
