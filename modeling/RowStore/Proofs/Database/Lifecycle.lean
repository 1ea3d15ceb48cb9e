import RowStore.Proofs.Database.Restart

/-!
Starting and stopping.

Starts and stops that are not refused take turns. What a database refuses changes nothing, what it
was given is done before it stops, and a restart cannot be told from what comes after it.
-/

namespace RowStore

open Database

/-- A database that is stopped starts, or one that is started stops. -/
inductive Switch : Bool → List Bool → Bool → Prop
  | on : Switch false [true] true
  | off : Switch true [false] false

/-- The starts and stops that an action has brought about, by what it was answered. -/
def Database.switchedBy : Action → Except Error Answer → List Bool
  | .start, .ok _ => [true]
  | .stop, .ok _ => [false]
  | .session _, .error (.refused _) => []
  | .session _, _ => [true, false]
  | _, _ => []

def Database.switched (actions : List Action) (answers : List (Except Error Answer)) : List Bool :=
  (actions.zip answers).flatMap fun entry => switchedBy entry.1 entry.2

theorem Execution.length_deeds (execution : Execution) (index : Nat) (catalog : Catalog)
    (submissions : List Submission) :
    (execution.deeds index catalog submissions).length =
      (execution.awaited submissions).length := by
  induction submissions generalizing catalog with
  | nil => rfl
  | cons submission submissions ih =>
      rw [deeds_cons, List.length_append, ih]
      cases hfault : execution.fault? submission with
      | some fault =>
          rw [deeds_of_fault hfault, awaited_cons_of_fault hfault, List.length_nil, Nat.zero_add]
      | none =>
          rw [deeds_of_returned hfault, awaited_cons_of_returned hfault, List.length_singleton,
            List.length_cons, Nat.add_comm]

namespace Host

variable {host : Host}

theorem step_while_started (hstarted : host.core.started = true) :
    host.step .start = (.error (.refused .alreadyStarted), host) ∧
      ∀ submissions,
        host.step (.session submissions) = (.error (.refused .alreadyStarted), host) := by
  exact ⟨by rw [step, start_of_started hstarted]; rfl,
    fun submissions => by rw [step, session_of_started hstarted]; rfl⟩

theorem step_while_stopped (hstopped : host.core.started = false) :
    host.step .stop = (.error (.refused .notStarted), host) ∧
      (∀ submission, host.step (.execute submission) = (.error (.refused .notStarted), host) ∧
        host.step (.executeAsync submission) = (.error (.refused .notStarted), host) ∧
        host.step (.submit submission) = (.error (.refused .notStarted), host)) ∧
      ∀ submissions, submissions ≠ [] →
        host.step (.executeMany submissions) = (.error (.refused .notStarted), host) := by
  refine ⟨by rw [step, stop_of_stopped hstopped]; rfl, fun submission => ?_,
    fun submissions hsubmissions => ?_⟩
  · simp only [step, execute_of_stopped hstopped, submit_of_stopped hstopped]
    exact ⟨rfl, rfl, rfl⟩
  · rw [step, executeMany_of_stopped hstopped hsubmissions]
    rfl

theorem started_step {action : Action} (hother : ∀ answer, switchedBy action answer = [])
    (host : Host) : (host.step action).2.core.started = host.core.started := by
  cases action with
  | start | stop | session => exact absurd (hother (.ok .done)) (by simp [switchedBy])
  | execute submission | executeAsync submission =>
      simp only [step, execute]
      split
      · rw [started_perform, started_drain]
      · rfl
  | executeMany submissions =>
      simp only [step, executeMany]
      split
      · rfl
      · split
        · rw [(host.drain.performAll_eq submissions).2, started_drain]
        · rfl
  | submit submission =>
      simp only [step, submit]
      split <;> rfl
  | collect => exact host.started_drain
  | work =>
      cases hqueue : host.core.queue with
      | nil => rw [step, work_of_idle hqueue]
      | cons submission queue => rw [step, core_work hqueue]

theorem switch_session (hstopped : host.core.started = false) (submissions : List Submission) :
    switchedBy (.session submissions) (host.step (.session submissions)).1 = [true, false] ∧
      (host.step (.session submissions)).2.core.started = false := by
  have hrunning : (host.start.2.performUntilFailure submissions).2.core.started = true := by
    rw [(host.start.2.performUntilFailure_eq submissions).2, core_start hstopped]
  rw [step, session_of_stopped hstopped, core_stop hrunning]
  constructor
  · cases (host.start.2.performUntilFailure submissions).1 <;> rfl
  · rfl

theorem switch_step (host : Host) (action : Action) :
    Chain Switch host.core.started (switchedBy action (host.step action).1)
      (host.step action).2.core.started := by
  cases action with
  | start =>
      cases hstarted : host.core.started with
      | true =>
          rw [(step_while_started hstarted).1, hstarted]
          exact .refl
      | false =>
          rw [step, core_start hstarted, start_of_stopped hstarted]
          exact .single .on
  | stop =>
      cases hstarted : host.core.started with
      | true =>
          rw [step, core_stop hstarted, stop_of_started hstarted]
          exact .single .off
      | false =>
          rw [(step_while_stopped hstarted).1, hstarted]
          exact .refl
  | session submissions =>
      cases hstarted : host.core.started with
      | true =>
          rw [(step_while_started hstarted).2, hstarted]
          exact .refl
      | false =>
          obtain ⟨hswitched, hlast⟩ := switch_session hstarted submissions
          rw [hswitched, hlast]
          exact .head Switch.on (.single Switch.off)
  | execute | executeAsync | executeMany | submit | collect | work =>
      rw [started_step fun _ => rfl]
      exact .refl

theorem switch_run (host : Host) (actions : List Action) :
    Chain Switch host.core.started (switched actions (host.run actions).1)
      (host.run actions).2.core.started := by
  induction actions generalizing host with
  | nil => exact .refl
  | cons action actions ih => exact (host.switch_step action).trans (ih (host.step action).2)

theorem total_advances {index : Nat} {first second : Store × Database} {done : List Deed}
    (hadvances : Advances index first done second) :
    second.2.total = first.2.total + done.length := by
  induction hadvances with
  | refl => rfl
  | head hadvance _ ih =>
      rw [ih, List.length_append]
      cases hadvance with
      | start | stop | submit | drop => simp
      | carry => simp [Database.count]; omega

theorem length_run (host : Host) (actions : List Action) :
    (host.run actions).1.length = actions.length := by
  induction actions generalizing host with
  | nil => rfl
  | cons action actions ih => exact congrArg (· + 1) (ih (host.step action).2)

theorem core_step_stop (hstarted : host.core.started = true) :
    (host.step .stop).1 = .ok .done ∧
      (host.step .stop).2.core =
        { execution := host.core.execution
          started := false
          queue := []
          catalog := (host.core.execution.evaluator.run host.core.catalog host.core.queue).2
          settled := host.core.settled ++
            (host.core.execution.evaluator.run host.core.catalog host.core.queue).1 } := by
  rw [step, core_stop hstarted, core_drain, stop_of_started hstarted]
  exact ⟨rfl, rfl⟩

theorem total_stop (hstarted : host.core.started = true) :
    (host.step .stop).2.database.total =
      host.database.total + (host.core.execution.awaited host.core.queue).length := by
  have htotal := total_advances (host.advances_stop 0)
  rw [deeds, due, if_pos hstarted, Execution.length_deeds] at htotal
  exact htotal

/-- Starts and stops take turns, and what is refused changes nothing. A database stops when all that
was submitted has been run. A restart is not to be told from the answers, nor from what is left. -/
theorem lifecycle (site : Site) {delay : Binary64} {serialized : Bool} {database : Database}
    (hcreate : Database.create { delay := delay, workers := 1, serialized := serialized } =
      .ok database)
    (actions : List Action) :
    let execution : Execution := { delay := delay, workers := 1, serialized := serialized }
    let evaluate : Evaluator Submission := fun catalog submission =>
      match execution.fault? submission with
      | some fault => (.error (.interrupted fault), catalog)
      | none => catalog.interpret submission.text
    let host : Host := { site := site, database := database }
    let last := (host.run actions).2
    Chain Switch false (switched actions (host.run actions).1) last.database.started ∧
    (last.database.started = true →
      last.step .start = (.error (.refused .alreadyStarted), last) ∧
      (∀ submissions,
        last.step (.session submissions) = (.error (.refused .alreadyStarted), last)) ∧
      let interpreter : Interpreter := { catalog := site.store.catalog, owed := site.settled }
      let log := (interpreter.run evaluate actions).2.log
      let outcomes := (evaluate.run last.site.store.catalog last.database.queue).1
      let stopped := (last.step .stop).2
      (last.step .stop).1 = .ok .done ∧ stopped.database.started = false ∧
        stopped.database.queue = [] ∧ stopped.site.settled = last.site.settled ++ outcomes ∧
        evaluate.run site.store.catalog (log.map Prod.fst) =
          (log.map Prod.snd, stopped.site.store.catalog) ∧
        stopped.database.total =
          last.database.total + (execution.awaited last.database.queue).length) ∧
    (last.database.started = false →
      (last.step .start).1 = .ok .done ∧
      last.step .stop = (.error (.refused .notStarted), last) ∧
      (∀ submission, last.step (.execute submission) = (.error (.refused .notStarted), last) ∧
        last.step (.executeAsync submission) = (.error (.refused .notStarted), last) ∧
        last.step (.submit submission) = (.error (.refused .notStarted), last)) ∧
      ∀ submissions, submissions ≠ [] →
        last.step (.executeMany submissions) = (.error (.refused .notStarted), last)) ∧
    last.step (.executeMany []) = (.ok (.results []), last) ∧
    ∀ front back, actions = front ++ back → (host.run front).2.database.started = true →
      let restarted := host.run (front ++ .stop :: .start :: back)
      (∃ answers rest, answers.length = front.length ∧ (host.run actions).1 = answers ++ rest ∧
        restarted.1 = answers ++ .ok .done :: .ok .done :: rest) ∧
      restarted.2.drain.unlogged = last.drain.unlogged ∧
      restarted.2.drain.snapshot = last.drain.snapshot ∧
      restarted.2.drain.stats = last.drain.stats ∧
      restarted.2.drain.site.store.metrics = last.drain.site.store.metrics := by
  intro execution evaluate host last
  obtain rfl := eq_of_create hcreate
  have horderly : Orderly host.database := fun _ => rfl
  refine ⟨host.switch_run actions, fun hstarted => ?_, fun hstopped => ?_, rfl, ?_⟩
  · obtain ⟨hstart, hsession⟩ := step_while_started hstarted
    refine ⟨hstart, hsession, ?_⟩
    intro interpreter log outcomes stopped
    -- The interpreter is ahead by the queue, which is empty once the database has stopped.
    have hfollows : host.Follows host.database.execution interpreter := follows_of_level rfl
    obtain ⟨-, hlast⟩ := hfollows.agrees_run actions
    have hlogged : interpreter.Logged evaluate site.store.catalog := rfl
    have hexecution : last.core.execution = host.database.execution := hlast.execution_eq
    obtain ⟨hanswer, hcore⟩ := core_step_stop hstarted
    have htotal := total_stop hstarted
    rw [hexecution] at hcore htotal
    refine ⟨hanswer, congrArg Core.started hcore, congrArg Core.queue hcore,
      congrArg Core.settled hcore, ?_, htotal⟩
    rw [show stopped.site.store.catalog = _ from congrArg Core.catalog hcore, hlast.catalog_eq]
    exact hlogged.run actions
  · obtain ⟨hstop, hsubmit, hmany⟩ := step_while_stopped hstopped
    exact ⟨by rw [step, start_of_stopped hstopped]; rfl, hstop, hsubmit, hmany⟩
  · rintro front back rfl hstarted restarted
    obtain ⟨hanswers, hdrained⟩ := run_restart horderly hstarted back
    have hwhole : (host.run (front ++ back)).1 =
        (host.run front).1 ++ ((host.run front).2.run back).1 := by rw [run_append]
    have hsnapshot := congrArg snapshot hdrained
    have hstats := congrArg stats hdrained
    have hmetrics := congrArg (fun host => host.site.store.metrics) hdrained
    exact ⟨⟨_, _, host.length_run front, hwhole, hanswers⟩, hdrained, hsnapshot, hstats, hmetrics⟩

/-- A restart while a creation is queued, in front of a start, a session and a stop that are refused
or not as before. -/
theorem lifecycle_across_restart :
    let front : List Action := [.start, .submit "create table t (a b)"]
    let back : List Action :=
      [.start, .session ["delete from t"], .submit "insert into t (a) values (1)",
        .execute "select a from t", .stop, .submit "delete from t"]
    let run (actions : List Action) := ({} : Host).run actions
    Database.create { delay := .zero, workers := 1, serialized := false } = .ok {} ∧
      Chain Switch false (switched (front ++ back) (run (front ++ back)).1)
        (run (front ++ back)).2.database.started ∧
      switched (front ++ back) (run (front ++ back)).1 = [true, false] ∧
      (run front).2.database.started = true ∧
      (run front).2.database.queue = ["create table t (a b)"] ∧
      ((run front).2.step .stop).2.database.queue = [] ∧
      (run front).2.step .start = (.error (.refused .alreadyStarted), (run front).2) ∧
      (run (front ++ back)).2.database.started = false ∧
      (run (front ++ back)).2.step .stop =
        (.error (.refused .notStarted), (run (front ++ back)).2) ∧
      (∃ answers rest, answers.length = front.length ∧
        (run (front ++ back)).1 = answers ++ rest ∧
        (run (front ++ .stop :: .start :: back)).1 =
          answers ++ .ok .done :: .ok .done :: rest) ∧
      (run (front ++ .stop :: .start :: back)).2.drain.snapshot =
        (run (front ++ back)).2.drain.snapshot := by
  intro front back run
  have hcreate : Database.create { delay := .zero, workers := 1, serialized := false } = .ok {} :=
    rfl
  have hfront : (run front).2.database.started = true := by decide +kernel
  have hlast : (run (front ++ back)).2.database.started = false := by decide +kernel
  obtain ⟨-, hstarted, -⟩ := lifecycle {} hcreate front
  obtain ⟨hstart, -, -, -, hqueue, -⟩ := hstarted hfront
  obtain ⟨hswitched, -, hstopped, -, hrestart⟩ := lifecycle {} hcreate (front ++ back)
  obtain ⟨hanswers, -, hsnapshot, -⟩ := hrestart front back rfl hfront
  exact ⟨hcreate, hswitched, rfl, hfront, rfl, hqueue, hstart, hlast, (hstopped hlast).2.1,
    hanswers, hsnapshot⟩

/-- A database stops although a creation that was submitted has not been executed, since its wait
was interrupted. -/
theorem interrupted_wait_not_executed_at_stop :
    let delay := Binary64.ofDecimal false 1 10
    let fault : Fault :=
      { title := "OverflowError"
        message := "timestamp too large to convert to C _PyTime_t" }
    let submission : Submission := { text := "create table t (a b)", fault := some fault }
    let host : Host := { database := { execution := { delay := delay } } }
    Database.create { delay := delay } = .ok { execution := { delay := delay } } ∧
      Statement.parse submission.text = some (.createTable "t" "a b") ∧
      (host.run [.start, .submit submission, .stop]).1 = [.ok .done, .ok .done, .ok .done] ∧
      (host.run [.start, .submit submission, .stop]).2.snapshot = [] ∧
      (host.run [.start, .submit submission, .stop]).2.database.total = 0 := by
  intro delay fault submission host
  exact ⟨rfl, by decide +kernel, rfl, rfl, rfl⟩

end Host

end RowStore
