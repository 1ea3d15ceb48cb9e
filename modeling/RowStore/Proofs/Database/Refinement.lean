import RowStore.Proofs.Database.Gauges
import RowStore.Proofs.Database.Interpreter

/-!
A database with one worker refines the plain interpreter.

The interpreter is ahead of the database by the texts in the queue: its catalog is the one that the
queue will lead to, and it owes the outcomes that are settled and those that the queue will have.
-/

namespace RowStore

open Database

theorem Catalog.interpret_of_parse {text : String} {statement : Statement}
    (hparse : Statement.parse text = some statement) (catalog : Catalog) :
    catalog.interpret text =
      (.ofReply text (catalog.step statement).1, (catalog.step statement).2) := by
  simp only [interpret, hparse]
  cases happly : catalog.apply statement with
  | error failure => rw [step_of_apply_error happly]; rfl
  | ok replied =>
      obtain ⟨reply, next⟩ := replied
      rw [step_of_apply_ok happly]
      cases reply <;> rfl

def Statement.selected? (catalog : Catalog) : Statement → Option (List Row)
  | .select columns name clause =>
      (catalog.table? name).map fun table =>
        table.select (Text.items columns) (Filter.ofClause? clause)
  | _ => none

theorem Catalog.interpret_eq_ok {catalog : Catalog} {text : String} {rows : Option (List Row)}
    (hrows : (catalog.interpret text).1 = .ok rows) :
    ∃ statement, Statement.parse text = some statement ∧
      rows = statement.selected? catalog := by
  cases hparse : Statement.parse text with
  | none => simp [interpret, hparse] at hrows
  | some statement =>
      refine ⟨statement, rfl, ?_⟩
      rw [interpret_of_parse hparse] at hrows
      cases statement with
      | createTable name definitions =>
          simp [step, apply, create, Outcome.ofReply, Reply.rows?] at hrows
          simp [Statement.selected?, hrows]
      | insert name columns values =>
          cases htable : catalog.table? name <;>
            simp [step, apply, insert, htable, Outcome.ofReply, Reply.rows?] at hrows
          simp [Statement.selected?, hrows]
      | select columns name clause =>
          cases htable : catalog.table? name <;>
            simp [step, apply, select, htable, Outcome.ofReply, Reply.rows?] at hrows
          simp [Statement.selected?, htable, hrows]
      | delete name clause =>
          cases htable : catalog.table? name <;>
            simp [step, apply, delete, htable, Outcome.ofReply, Reply.rows?] at hrows
          simp [Statement.selected?, hrows]

namespace Host

/-- The part of a host that bears on the outcomes of statements. -/
structure Core where
  execution : Execution
  started : Bool
  queue : List Submission
  catalog : Catalog
  settled : List Outcome

def core (host : Host) : Core :=
  { execution := host.database.execution
    started := host.database.started
    queue := host.database.queue
    catalog := host.site.store.catalog
    settled := host.site.settled }

/-! Counters, the journal and the spans are no part of the core. -/

@[simp] theorem core_record (host : Host) (kind : Option Statement.Kind) (status : Status) :
    (host.record kind status).core = host.core := rfl

@[simp] theorem core_write (host : Host) (text : String) (events : List Journal.Event) :
    (host.write text events).core = host.core := rfl

@[simp] theorem core_announce (host : Host) (event : Journal.Event) :
    (host.announce event).core = host.core := rfl

@[simp] theorem core_trace (host : Host) (change : Trace.Recorder → Trace.Recorder) :
    (host.trace change).core = host.core := rfl

@[simp] theorem core_conclude (host : Host) (text : String) (statement : Statement)
    (reply : Except Failure Reply) : (host.conclude text statement reply).core = host.core := by
  cases reply <;> rfl

theorem core_carryOut (host : Host) (text : String) (statement : Statement) :
    (host.carryOut text statement).2.core =
      { host.core with catalog := (host.core.catalog.step statement).2 } := by
  simp only [carryOut_eq, core_trace, core_conclude]
  exact congrArg (fun catalog => { host.core with catalog := catalog })
    (host.site.store.catalog_dispatch statement)

theorem perform_eq (host : Host) (submission : Submission) :
    (host.perform submission).1 =
        (host.core.execution.evaluator host.core.catalog submission).1 ∧
      (host.perform submission).2.core =
        { host.core with
          catalog := (host.core.execution.evaluator host.core.catalog submission).2 } := by
  cases hfault : host.core.execution.fault? submission with
  | some fault =>
      rw [perform_of_fault hfault, Execution.evaluator_of_fault hfault]
      exact ⟨rfl, rfl⟩
  | none =>
      rw [Execution.evaluator_of_returned hfault]
      cases hparse : Statement.parse submission.text with
      | none =>
          rw [perform_of_unparsed hfault hparse]
          simp only [Catalog.interpret, hparse]
          exact ⟨rfl, rfl⟩
      | some statement =>
          rw [perform_of_parse hfault hparse, Catalog.interpret_of_parse hparse]
          exact ⟨host.outcome_carryOut submission.text statement,
            host.core_carryOut submission.text statement⟩

theorem performAll_eq (host : Host) (submissions : List Submission) :
    (host.performAll submissions).1 =
      (host.core.execution.evaluator.run host.core.catalog submissions).1 ∧
      (host.performAll submissions).2.core =
        { host.core with
          catalog := (host.core.execution.evaluator.run host.core.catalog submissions).2 } := by
  induction submissions generalizing host with
  | nil => exact ⟨rfl, rfl⟩
  | cons submission submissions ih =>
      obtain ⟨houtcome, hcore⟩ := host.perform_eq submission
      obtain ⟨houtcomes, hlast⟩ := ih (host.perform submission).2
      rw [hcore] at houtcomes hlast
      rw [performAll_cons, Evaluator.run_cons]
      exact ⟨by rw [houtcome, houtcomes], hlast⟩

theorem mapError_allResults (outcomes : List Outcome) :
    (allResults outcomes).mapError Error.failed = Outcome.results outcomes := by
  induction outcomes with
  | nil => rfl
  | cons outcome outcomes ih =>
      cases outcome with
      | error failure => rfl
      | ok rows =>
          rw [Outcome.results_cons_ok, ← ih, allResults]
          cases allResults outcomes <;> rfl

theorem performUntilFailure_cons_error {host : Host} {submission : Submission} {failure : Failure}
    (submissions : List Submission) (hfailure : (host.perform submission).1 = .error failure) :
    host.performUntilFailure (submission :: submissions) =
      (.error failure, (host.perform submission).2) := by
  rw [performUntilFailure]
  cases hperform : host.perform submission with
  | mk outcome next =>
      rw [hperform] at hfailure
      cases hfailure
      rfl

theorem performUntilFailure_cons_ok {host : Host} {submission : Submission}
    {rows : Option (List Row)}
    (submissions : List Submission) (hrows : (host.perform submission).1 = .ok rows) :
    host.performUntilFailure (submission :: submissions) =
      (((host.perform submission).2.performUntilFailure submissions).1.map (rows :: ·),
        ((host.perform submission).2.performUntilFailure submissions).2) := by
  rw [performUntilFailure]
  cases hperform : host.perform submission with
  | mk outcome next =>
      rw [hperform] at hrows
      cases hrows
      dsimp only
      cases next.performUntilFailure submissions with
      | mk results last => cases results <;> rfl

theorem performUntilFailure_eq (host : Host) (submissions : List Submission) :
    (host.performUntilFailure submissions).1.mapError Error.failed =
        Outcome.results (host.core.execution.evaluator.run host.core.catalog
          (host.core.execution.evaluator.untilFailure host.core.catalog submissions)).1 ∧
      (host.performUntilFailure submissions).2.core =
        { host.core with
          catalog := (host.core.execution.evaluator.run host.core.catalog
            (host.core.execution.evaluator.untilFailure host.core.catalog submissions)).2 } := by
  induction submissions generalizing host with
  | nil => exact ⟨rfl, rfl⟩
  | cons submission submissions ih =>
      obtain ⟨houtcome, hcore⟩ := host.perform_eq submission
      cases hresult : (host.perform submission).1 with
      | error failure =>
          rw [hresult] at houtcome
          rw [performUntilFailure_cons_error submissions hresult,
            Evaluator.untilFailure_cons_error _ _ houtcome.symm, Evaluator.run_cons, ← houtcome]
          exact ⟨rfl, hcore⟩
      | ok rows =>
          rw [hresult] at houtcome
          obtain ⟨hresults, hlast⟩ := ih (host.perform submission).2
          rw [hcore] at hresults hlast
          rw [performUntilFailure_cons_ok submissions hresult,
            Evaluator.untilFailure_cons_ok _ _ houtcome.symm, Evaluator.run_cons, ← houtcome,
            Outcome.results_cons_ok, ← hresults]
          refine ⟨?_, hlast⟩
          cases ((host.perform submission).2.performUntilFailure submissions).1 <;> rfl

/-! The queue. -/

theorem core_work {host : Host} {submission : Submission} {queue : List Submission}
    (hqueue : host.core.queue = submission :: queue) :
    host.work.core =
      { host.core with
        queue := queue
        catalog := (host.core.execution.evaluator host.core.catalog submission).2
        settled :=
          host.core.settled ++
            [(host.core.execution.evaluator host.core.catalog submission).1] } := by
  obtain ⟨houtcome, hcore⟩ := perform_eq
    { host with database := { host.database with queue := queue } } submission
  rw [work_of_cons hqueue]
  simp only [core, Core.mk.injEq] at hcore ⊢
  rw [houtcome, hcore.2.2.2.2]
  exact ⟨hcore.1, hcore.2.1, hcore.2.2.1, hcore.2.2.2.1, rfl⟩

theorem core_workThrough {host : Host} {queue : List Submission}
    (hqueue : host.core.queue = queue) :
    (host.workThrough queue).core =
      { host.core with
        queue := []
        catalog := (host.core.execution.evaluator.run host.core.catalog queue).2
        settled :=
          host.core.settled ++ (host.core.execution.evaluator.run host.core.catalog queue).1 } := by
  induction queue generalizing host with
  | nil =>
      rw [workThrough_nil, Evaluator.run_nil, List.append_nil, ← hqueue]
  | cons submission queue ih =>
      have hwork := core_work hqueue
      rw [workThrough_cons, ih (by rw [hwork]), hwork]
      simp

theorem core_drain (host : Host) :
    host.drain.core =
      { host.core with
        queue := []
        catalog := (host.core.execution.evaluator.run host.core.catalog host.core.queue).2
        settled := host.core.settled ++
          (host.core.execution.evaluator.run host.core.catalog host.core.queue).1 } :=
  core_workThrough rfl

/-- A host and an interpreter that is ahead of it by what is queued. -/
structure Follows (execution : Execution) (host : Host) (interpreter : Interpreter) : Prop where
  execution_eq : host.core.execution = execution
  started_eq : host.core.started = interpreter.started
  idle : interpreter.started = false → host.core.queue = []
  catalog_eq :
    (execution.evaluator.run host.core.catalog host.core.queue).2 = interpreter.catalog
  owed_eq :
    host.core.settled ++ (execution.evaluator.run host.core.catalog host.core.queue).1 =
      interpreter.owed

section Follows

variable {execution : Execution} {host : Host} {interpreter : Interpreter}

theorem Follows.work (hfollows : host.Follows execution interpreter) :
    host.work.Follows execution interpreter := by
  cases hqueue : host.core.queue with
  | nil => rwa [work_of_idle hqueue]
  | cons submission queue =>
      have hcore := core_work hqueue
      have hcatalog := hfollows.catalog_eq
      have howed := hfollows.owed_eq
      rw [hqueue, Evaluator.run_cons] at hcatalog howed
      rw [hfollows.execution_eq] at hcore
      constructor
      · rw [hcore]
        exact hfollows.execution_eq
      · rw [hcore]
        exact hfollows.started_eq
      · intro hstopped
        rw [hfollows.idle hstopped] at hqueue
        contradiction
      · rw [hcore]
        exact hcatalog
      · rw [hcore]
        exact (List.append_assoc ..).trans howed

/-- The core of a host that is level with an interpreter: nothing is queued. -/
def level (execution : Execution) (interpreter : Interpreter) : Core :=
  { execution := execution
    started := interpreter.started
    queue := []
    catalog := interpreter.catalog
    settled := interpreter.owed }

theorem follows_of_level (hcore : host.core = level execution interpreter) :
    host.Follows execution interpreter := by
  constructor
  · rw [hcore]
    rfl
  · rw [hcore]
    rfl
  · intro _
    rw [hcore]
    rfl
  · rw [hcore]
    rfl
  · rw [hcore]
    exact List.append_nil _

theorem Follows.core_drain (hfollows : host.Follows execution interpreter) :
    host.drain.core = level execution interpreter := by
  simp only [Host.core_drain, hfollows.execution_eq, hfollows.catalog_eq, hfollows.owed_eq,
    hfollows.started_eq, level]

theorem core_stop {host : Host} (hstarted : host.core.started = true) :
    host.stop.2.core = { host.drain.core with started := false } := by
  rw [stop_of_started hstarted, core_announce]
  rfl

theorem Follows.core_of_stopped (hfollows : host.Follows execution interpreter)
    (hstopped : interpreter.started = false) : host.core = level execution interpreter := by
  have hqueue := hfollows.idle hstopped
  have hcatalog := hfollows.catalog_eq
  have howed := hfollows.owed_eq
  rw [hqueue, Evaluator.run_nil] at hcatalog howed
  rw [List.append_nil] at howed
  rw [level, ← hfollows.execution_eq, ← hfollows.started_eq, ← hqueue, ← hcatalog, ← howed]

theorem core_start (hstopped : host.core.started = false) :
    host.start.2.core = { host.core with started := true } := by
  rw [start_of_stopped hstopped]
  rfl

theorem drain_of_idle (hqueue : host.core.queue = []) : host.drain = host := by
  rw [drain, show host.database.queue = [] from hqueue, workThrough_nil]

/-! One action: the same answer, and the interpreter stays ahead. -/

structure Agrees (execution : Execution) (answered : Except Error Answer × Host)
    (told : Except Error Answer × Interpreter) : Prop where
  answer : answered.1 = told.1
  follows : answered.2.Follows execution told.2

theorem Follows.agrees_start (hfollows : host.Follows execution interpreter) :
    Agrees execution (host.step .start) (interpreter.step execution.evaluator .start) := by
  cases hstarted : interpreter.started with
  | true =>
      have hhost : host.database.started = true := hfollows.started_eq.trans hstarted
      have hrefusal : interpreter.refusal? .start = some .alreadyStarted := by
        simp [Interpreter.refusal?, hstarted]
      rw [Interpreter.step_of_refused hrefusal, Host.step, start_of_started hhost]
      exact ⟨rfl, hfollows⟩
  | false =>
      have hhost : host.database.started = false := hfollows.started_eq.trans hstarted
      rw [Interpreter.step_of_accepted (by simp [Interpreter.refusal?, hstarted]), Host.step,
        start_of_stopped hhost]
      exact ⟨rfl,
        ⟨hfollows.execution_eq, rfl, (fun h => nomatch h), hfollows.catalog_eq, hfollows.owed_eq⟩⟩

theorem Follows.agrees_stop (hfollows : host.Follows execution interpreter) :
    Agrees execution (host.step .stop) (interpreter.step execution.evaluator .stop) := by
  cases hstarted : interpreter.started with
  | true =>
      have hhost : host.core.started = true := hfollows.started_eq.trans hstarted
      rw [Interpreter.step_of_accepted (by simp [Interpreter.refusal?, hstarted])]
      refine ⟨by rw [Host.step, stop_of_started hhost]; rfl, follows_of_level ?_⟩
      exact (core_stop hhost).trans (by rw [hfollows.core_drain]; rfl)
  | false =>
      have hhost : host.database.started = false := hfollows.started_eq.trans hstarted
      have hrefusal : interpreter.refusal? .stop = some .notStarted := by
        simp [Interpreter.refusal?, hstarted]
      rw [Interpreter.step_of_refused hrefusal, Host.step, stop_of_stopped hhost]
      exact ⟨rfl, hfollows⟩

theorem Follows.agrees_execute (hfollows : host.Follows execution interpreter)
    (submission : Submission) :
    Agrees execution (host.step (.execute submission))
      (interpreter.step execution.evaluator (.execute submission)) := by
  cases hstarted : interpreter.started with
  | true =>
      have hhost : host.database.started = true := hfollows.started_eq.trans hstarted
      obtain ⟨houtcome, hcore⟩ := host.drain.perform_eq submission
      rw [hfollows.core_drain] at houtcome hcore
      rw [Interpreter.step_of_accepted (by simp [Interpreter.refusal?, hstarted]), Host.step,
        execute_of_started hhost]
      refine ⟨?_, follows_of_level hcore⟩
      dsimp only
      rw [houtcome]
      simp only [Interpreter.answer, Interpreter.outcomes, Interpreter.carried,
        Evaluator.run_cons, Evaluator.run_nil, level]
      cases (execution.evaluator interpreter.catalog submission).1 <;> rfl
  | false =>
      have hhost : host.database.started = false := hfollows.started_eq.trans hstarted
      have hrefusal : interpreter.refusal? (.execute submission) = some .notStarted := by
        simp [Interpreter.refusal?, hstarted]
      rw [Interpreter.step_of_refused hrefusal, Host.step, execute_of_stopped hhost]
      exact ⟨rfl, hfollows⟩

theorem Follows.agrees_executeMany (hfollows : host.Follows execution interpreter)
    (submissions : List Submission) :
    Agrees execution (host.step (.executeMany submissions))
      (interpreter.step execution.evaluator (.executeMany submissions)) := by
  by_cases hempty : submissions = []
  · subst hempty
    rw [Interpreter.step_of_accepted (by simp [Interpreter.refusal?])]
    exact ⟨rfl, ⟨hfollows.execution_eq, hfollows.started_eq, hfollows.idle, hfollows.catalog_eq,
      hfollows.owed_eq⟩⟩
  · cases hstarted : interpreter.started with
    | true =>
        have hhost : host.database.started = true := hfollows.started_eq.trans hstarted
        obtain ⟨houtcomes, hcore⟩ := host.drain.performAll_eq submissions
        rw [hfollows.core_drain] at houtcomes hcore
        rw [Interpreter.step_of_accepted (by simp [Interpreter.refusal?, hstarted]), Host.step,
          executeMany_of_started hhost hempty]
        refine ⟨?_, follows_of_level hcore⟩
        dsimp only
        rw [houtcomes, mapError_allResults]
        rfl
    | false =>
        have hhost : host.database.started = false := hfollows.started_eq.trans hstarted
        have hrefusal : interpreter.refusal? (.executeMany submissions) = some .notStarted := by
          simp [Interpreter.refusal?, hstarted, hempty]
        rw [Interpreter.step_of_refused hrefusal, Host.step, executeMany_of_stopped hhost hempty]
        exact ⟨rfl, hfollows⟩

theorem Follows.agrees_submit (hfollows : host.Follows execution interpreter)
    (submission : Submission) :
    Agrees execution (host.step (.submit submission))
      (interpreter.step execution.evaluator (.submit submission)) := by
  cases hstarted : interpreter.started with
  | true =>
      have hhost : host.database.started = true := hfollows.started_eq.trans hstarted
      rw [Interpreter.step_of_accepted (by simp [Interpreter.refusal?, hstarted]), Host.step,
        submit_of_started hhost]
      refine ⟨rfl, ⟨hfollows.execution_eq, hfollows.started_eq, ?_, ?_, ?_⟩⟩
      · intro hstopped
        exact absurd (hstarted.symm.trans hstopped) Bool.noConfusion
      · change (execution.evaluator.run host.core.catalog (host.core.queue ++ [submission])).2 = _
        rw [Evaluator.run_append, hfollows.catalog_eq]
        rfl
      · change host.core.settled ++
          (execution.evaluator.run host.core.catalog (host.core.queue ++ [submission])).1 = _
        rw [Evaluator.run_append, hfollows.catalog_eq, ← List.append_assoc, hfollows.owed_eq]
        rfl
  | false =>
      have hhost : host.database.started = false := hfollows.started_eq.trans hstarted
      have hrefusal : interpreter.refusal? (.submit submission) = some .notStarted := by
        simp [Interpreter.refusal?, hstarted]
      rw [Interpreter.step_of_refused hrefusal, Host.step, submit_of_stopped hhost]
      exact ⟨rfl, hfollows⟩

theorem Follows.agrees_collect (hfollows : host.Follows execution interpreter) :
    Agrees execution (host.step .collect) (interpreter.step execution.evaluator .collect) := by
  have hdrain := hfollows.core_drain
  have hsettled : host.drain.site.settled = interpreter.owed := congrArg Core.settled hdrain
  rw [Interpreter.step_of_accepted rfl]
  constructor
  · simp only [Host.step, Host.collect, hsettled]
    rfl
  · apply follows_of_level
    change { host.drain.core with settled := [] } = _
    rw [hdrain]
    rfl

theorem Follows.agrees_session (hfollows : host.Follows execution interpreter)
    (submissions : List Submission) :
    Agrees execution (host.step (.session submissions))
      (interpreter.step execution.evaluator (.session submissions)) := by
  cases hstarted : interpreter.started with
  | true =>
      have hhost : host.database.started = true := hfollows.started_eq.trans hstarted
      have hrefusal : interpreter.refusal? (.session submissions) = some .alreadyStarted := by
        simp [Interpreter.refusal?, hstarted]
      rw [Interpreter.step_of_refused hrefusal, Host.step, session_of_started hhost]
      exact ⟨rfl, hfollows⟩
  | false =>
      have hstopped : host.core.started = false := hfollows.started_eq.trans hstarted
      have hrunning := core_start hstopped
      rw [hfollows.core_of_stopped hstarted] at hrunning
      obtain ⟨hresults, hcore⟩ := host.start.2.performUntilFailure_eq submissions
      rw [hrunning] at hresults hcore
      have hlast : (host.start.2.performUntilFailure submissions).2.core.started = true := by
        rw [hcore]
      have hidle : (host.start.2.performUntilFailure submissions).2.core.queue = [] := by
        rw [hcore]
        rfl
      rw [Interpreter.step_of_accepted (by simp [Interpreter.refusal?, hstarted]), Host.step,
        session_of_stopped hstopped]
      constructor
      · rw [hresults]
        rfl
      · apply follows_of_level
        rw [core_stop hlast, drain_of_idle hidle, hcore]
        rfl

theorem Follows.agrees (hfollows : host.Follows execution interpreter) (action : Action) :
    Agrees execution (host.step action) (interpreter.step execution.evaluator action) := by
  cases action with
  | start => exact hfollows.agrees_start
  | stop => exact hfollows.agrees_stop
  | execute submission => exact hfollows.agrees_execute submission
  | executeAsync submission => exact hfollows.agrees_execute submission
  | executeMany submissions => exact hfollows.agrees_executeMany submissions
  | submit submission => exact hfollows.agrees_submit submission
  | collect => exact hfollows.agrees_collect
  | session submissions => exact hfollows.agrees_session submissions
  | work =>
      have hwork := hfollows.work
      rw [Interpreter.step_of_accepted rfl]
      exact ⟨rfl, ⟨hwork.execution_eq, hwork.started_eq, hwork.idle, hwork.catalog_eq,
        hwork.owed_eq⟩⟩

/-- A run gives the same answers, and the interpreter stays ahead throughout. -/
theorem Follows.agrees_run (hfollows : host.Follows execution interpreter)
    (actions : List Action) :
    (host.run actions).1 = (interpreter.run execution.evaluator actions).1 ∧
      (host.run actions).2.Follows execution
        (interpreter.run execution.evaluator actions).2 := by
  induction actions generalizing host interpreter with
  | nil => exact ⟨rfl, hfollows⟩
  | cons action actions ih =>
      have hstep := hfollows.agrees action
      obtain ⟨hanswers, hlast⟩ := ih hstep.follows
      refine ⟨?_, hlast⟩
      rw [run_cons, Interpreter.run_cons, hstep.answer, hanswers]

end Follows

theorem eq_of_create {execution : Execution} {database : Database}
    (hcreate : Database.create execution = .ok database) :
    database = { execution := execution } := by
  unfold Database.create at hcreate
  split at hcreate
  · contradiction
  · cases hcreate
    rfl

/-- A new database with one worker, in any course of actions. Its answers, whether it is started,
and the tables once its queue is worked through are those of the interpreter, whose log is a plain
run of the evaluator. What collectors get, with what is still owed to them, is what was submitted.
A text whose wait returns is interpreted; any other fails with what interrupts its wait. -/
theorem run_refines_interpreter (site : Site) {delay : Binary64} {serialized : Bool}
    {database : Database}
    (hcreate : Database.create { delay := delay, workers := 1, serialized := serialized } =
      .ok database)
    (actions : List Action) :
    let execution : Execution := { delay := delay, workers := 1, serialized := serialized }
    let evaluate : Evaluator Submission := fun catalog submission =>
      match execution.fault? submission with
      | some fault => (.error (.interrupted fault), catalog)
      | none => catalog.interpret submission.text
    let host : Host := { site := site, database := database }
    let interpreter : Interpreter := { catalog := site.store.catalog, owed := site.settled }
    let answers := (host.run actions).1
    let last := (host.run actions).2
    let told := (interpreter.run evaluate actions).2
    answers = (interpreter.run evaluate actions).1 ∧
      last.database.started = told.started ∧
      last.drain.snapshot = told.catalog.snapshot ∧
      evaluate.run site.store.catalog (told.log.map Prod.fst) =
        (told.log.map Prod.snd, told.catalog) ∧
      collected answers ++ told.owed = site.settled ++ interpreter.submitted evaluate actions ∧
      ∀ catalog text rows, (Catalog.interpret catalog text).1 = .ok rows →
        ∃ statement, Statement.parse text = some statement ∧
          rows = statement.selected? catalog := by
  intro execution evaluate host interpreter answers last told
  obtain rfl := eq_of_create hcreate
  have hfollows : host.Follows execution interpreter := follows_of_level rfl
  obtain ⟨hanswers, hlast⟩ := hfollows.agrees_run actions
  have hlogged : interpreter.Logged evaluate site.store.catalog := rfl
  refine ⟨hanswers, hlast.started_eq, ?_, hlogged.run actions, ?_, ?_⟩
  · exact congrArg (fun core => core.catalog.snapshot) hlast.core_drain
  · rw [show answers = _ from hanswers]
    exact Interpreter.collected_run actions
  · intro catalog text rows
    exact Catalog.interpret_eq_ok

/-- Submissions that are collected after a restart, a session that fails in the middle, and a batch
that runs to its end although a text of it is no statement. -/
theorem run_refines_interpreter_across_restart :
    let actions : List Action :=
      [.start, .submit "create table t (a b)", .submit "insert into t (a) values (1)", .stop,
        .collect,
        .session ["insert into t (a) values (2)", "insert into u (a) values (1)", "delete from t"],
        .start, .executeMany ["drop table t", "delete from t"], .execute "select a from t"]
    Database.create { delay := .zero, workers := 1, serialized := false } = .ok {} ∧
      (({} : Host).run actions).1 =
        [.ok .done, .ok .done, .ok .done, .ok .done, .ok (.outcomes [.ok none, .ok none]),
          .error (.failed (.unknownTable "u" (some "insert into u (a) values (1)"))), .ok .done,
          .error (.failed (.malformed "drop table t")), .ok (.result (some []))] := by
  intro actions
  have hcreate : Database.create { delay := .zero, workers := 1, serialized := false } = .ok {} :=
    rfl
  exact ⟨hcreate, (run_refines_interpreter {} hcreate actions).1.trans rfl⟩

/-- With a delay of ten thousand million seconds, a wait that is interrupted and is no failure of
the interpreter. -/
theorem interrupted_wait_not_interpreted :
    let delay := Binary64.ofDecimal false 1 10
    let fault : Fault :=
      { title := "OverflowError"
        message := "timestamp too large to convert to C _PyTime_t" }
    let actions : List Action :=
      [.start, .execute { text := "create table t (a b)", fault := some fault }]
    Database.create { delay := delay } = .ok { execution := { delay := delay } } ∧
      (({ database := { execution := { delay := delay } } } : Host).run actions).1 =
        [.ok .done, .error (.failed (.interrupted fault))] ∧
      (({ catalog := .empty } : Interpreter).run
          (fun catalog submission => catalog.interpret submission.text) actions).1 =
        [.ok .done, .ok (.result none)] :=
  ⟨rfl, rfl, rfl⟩

end Host

end RowStore
