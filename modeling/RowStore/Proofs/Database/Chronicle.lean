import RowStore.Proofs.Database.Order
import RowStore.Proofs.Database.Report
import RowStore.Proofs.Database.Restart
import RowStore.Proofs.Trace.Nest

/-!
The journal, the spans and the counters of a database tell the same of every run.

Each text that is run adds its block of lines, its span if it is a statement, and one to the
counters. Nothing else that a database does adds to them; the lines about starts and stops are not
the worker's.
-/

namespace RowStore

open Database Journal

/-- The part of a host that texts leave a trace in. -/
structure Account where
  catalog : Catalog
  lines : List Entry
  recorder : Trace.Recorder
  total : Nat
  failed : Nat

namespace Account

/-- An account that texts have led to, beginning with another one. -/
structure Tells (account origin : Account) (texts : List String) : Prop where
  catalog_eq : account.catalog = origin.catalog.after texts
  blocks : ∃ lines, Blocks origin.catalog texts lines ∧ account.lines = origin.lines ++ lines
  recorder_eq : account.recorder =
    origin.recorder.after
      (Trace.spans origin.recorder.next origin.recorder.current origin.catalog texts)
  total_eq : account.total = origin.total + texts.length
  failed_eq : account.failed = origin.failed + origin.catalog.failures texts

variable {account origin next : Account} {texts : List String} {text : String}

theorem Tells.refl (account : Account) : account.Tells account [] where
  catalog_eq := rfl
  blocks := ⟨[], .nil, (List.append_nil _).symm⟩
  recorder_eq := account.recorder.after_nil.symm
  total_eq := rfl
  failed_eq := rfl

/-- One more text, which leaves a block, a span if it is a statement, and its count. -/
structure Adds (account next : Account) (text : String) (block : List Entry) : Prop where
  catalog_eq : next.catalog = (Catalog.interpret account.catalog text).2
  lines_eq : next.lines = account.lines ++ block
  recorder_eq : next.recorder =
    account.recorder.after
      (Trace.Span.ofOutcome? account.recorder.next account.recorder.current text
        (Catalog.interpret account.catalog text).1).toList
  total_eq : next.total = account.total + 1
  failed_eq : next.failed = account.failed +
    if (Catalog.interpret account.catalog text).1.status = .error then 1 else 0

theorem Tells.append (htells : account.Tells origin texts) {block : List Entry}
    (hblock : Block origin.catalog texts text (Catalog.interpret account.catalog text).1 block)
    (hadds : account.Adds next text block) : next.Tells origin (texts ++ [text]) := by
  obtain ⟨lines, hlines, haccount⟩ := htells.blocks
  obtain ⟨hcatalog, hline, hrecorder, htotal, hfailed⟩ := hadds
  rw [htells.catalog_eq] at hcatalog hblock hrecorder hfailed
  constructor
  · rw [hcatalog, Catalog.after, Catalog.after, Evaluator.run_append]
    rfl
  · exact ⟨lines ++ block, .snoc hlines hblock, by rw [hline, haccount, List.append_assoc]⟩
  · rw [hrecorder, htells.recorder_eq, Trace.spans_append, Trace.Recorder.after_append]
    rfl
  · rw [htotal, htells.total_eq, List.length_append, List.length_singleton, Nat.add_assoc]
  · rw [hfailed, htells.failed_eq, Catalog.failures_append, Nat.add_assoc]

end Account

namespace Host

variable {host : Host} {origin : Account} {texts : List String} {text : String}
  {statement : Statement}

def account (host : Host) : Account :=
  { catalog := host.site.store.catalog
    lines := host.site.journal.filter Entry.fromWorker
    recorder := host.site.recorder
    total := host.database.total
    failed := host.database.failed }

theorem adds_reject (hparse : Statement.parse text = none) :
    host.account.Adds (host.reject text).2.account text
      [workerEntry text Statement.rejectedEvent] := by
  have hinterpret : Catalog.interpret host.account.catalog text =
      (.error (.malformed text), host.account.catalog) := by
    simp only [Catalog.interpret, hparse]
  have hspan (id : Nat) (parent : Option Nat) (outcome : Outcome) :
      Trace.Span.ofOutcome? id parent text outcome = none := by
    simp [Trace.Span.ofOutcome?, hparse]
  constructor
  · rw [hinterpret]
    rfl
  · exact List.filter_append ..
  · rw [hspan]
    exact host.account.recorder.after_nil.symm
  · rfl
  · rw [hinterpret]
    rfl

theorem documented_spanKit : spanKit.Documented :=
  Trace.Kit.documented_ofRecorder id fun _ _ => rfl

theorem recorder_carryOut (hparse : Statement.parse text = some statement) :
    (host.carryOut text statement).2.account.recorder =
      host.account.recorder.after
        (Trace.Span.ofOutcome? host.account.recorder.next host.account.recorder.current text
          (Catalog.interpret host.account.catalog text).1).toList := by
  have hreply : (host.site.store.dispatch statement).1 =
      (host.account.catalog.step statement).1 := rfl
  rw [carryOut_eq, Catalog.interpret_of_parse hparse, Trace.Span.ofOutcome?, hparse, hreply]
  cases (host.account.catalog.step statement).1 <;> rfl

theorem catalog_carryOut (hparse : Statement.parse text = some statement) :
    (host.carryOut text statement).2.account.catalog =
      (Catalog.interpret host.account.catalog text).2 := by
  rw [Catalog.interpret_of_parse hparse]
  exact congrArg Core.catalog (host.core_carryOut text statement)

theorem adds_failed {failure : Failure} (hparse : Statement.parse text = some statement)
    (hfailure : (host.account.catalog.step statement).1 = .error failure) :
    host.account.Adds (host.carryOut text statement).2.account text
      [workerEntry text (Statement.failedEvent statement.kind failure)] := by
  have hreply : (host.site.store.dispatch statement).1 = .error failure := hfailure
  have hstatus : (Catalog.interpret host.account.catalog text).1.status = .error := by
    rw [Catalog.interpret_of_parse hparse, hfailure]
    rfl
  refine ⟨catalog_carryOut hparse, ?_, recorder_carryOut hparse, ?_, ?_⟩
  · rw [carryOut_eq, hreply]
    exact List.filter_append ..
  · rw [carryOut_eq, hreply]
    rfl
  · rw [carryOut_eq, hreply, hstatus]
    rfl

theorem adds_executed {reply : Reply} (hparse : Statement.parse text = some statement)
    (hreply : (host.account.catalog.step statement).1 = .ok reply) :
    host.account.Adds (host.carryOut text statement).2.account text
      (((statement.changeEvents reply).map (workerEntry text) ++
        [workerEntry text (Statement.executedEvent statement.kind)]).filter
          Entry.fromWorker) := by
  have hdispatched : (host.site.store.dispatch statement).1 = .ok reply := hreply
  have hstatus : (Catalog.interpret host.account.catalog text).1.status = .success := by
    rw [Catalog.interpret_of_parse hparse, hreply]
    rfl
  refine ⟨catalog_carryOut hparse, ?_, recorder_carryOut hparse, ?_, ?_⟩
  · rw [carryOut_eq, hdispatched, account, account, ← List.filter_append, ← List.append_assoc]
    rfl
  · rw [carryOut_eq, hdispatched]
    rfl
  · rw [carryOut_eq, hdispatched, hstatus]
    rfl

theorem tells_perform (htells : host.account.Tells origin texts) {submission : Submission}
    (hreturned : host.core.execution.fault? submission = none) :
    (host.perform submission).2.account.Tells origin (texts ++ [submission.text]) := by
  obtain ⟨text, _⟩ := submission
  cases hparse : Statement.parse text with
  | none =>
      have houtcome : (Catalog.interpret host.account.catalog text).1 =
          .error (.malformed text) := by
        simp only [Catalog.interpret, hparse]
      rw [perform_of_unparsed hreturned hparse]
      refine htells.append ?_ (adds_reject hparse)
      rw [houtcome]
      exact .of_rejected hparse
  | some statement =>
      rw [perform_of_parse hreturned hparse]
      cases hreply : (host.account.catalog.step statement).1 with
      | error failure =>
          refine htells.append ?_ (adds_failed hparse hreply)
          rw [Catalog.interpret_of_parse hparse, hreply]
          rw [htells.catalog_eq] at hreply
          exact .of_failed hparse hreply
      | ok reply =>
          have hadds := adds_executed hparse hreply
          rw [htells.catalog_eq] at hreply
          have hblock := Block.of_executed hparse hreply
          rw [hblock.filter_fromWorker] at hadds
          refine htells.append ?_ hadds
          rw [htells.catalog_eq, Catalog.interpret_of_parse hparse, hreply]
          exact hblock

/-! Whole actions. -/

def Recounts (host : Host) (origin : Account) (submissions : List Submission) : Prop :=
  host.account.Tells origin (host.core.execution.awaited submissions)

namespace Recounts

variable {other : Host} {submissions : List Submission}

theorem congr (hrecounts : host.Recounts origin submissions)
    (haccount : other.account = host.account)
    (hexecution : other.core.execution = host.core.execution) :
    other.Recounts origin submissions := by
  rw [Recounts, haccount, hexecution]
  exact hrecounts

theorem perform (hrecounts : host.Recounts origin submissions) (submission : Submission) :
    (host.perform submission).2.Recounts origin (submissions ++ [submission]) := by
  cases hfault : host.core.execution.fault? submission with
  | some fault =>
      rw [perform_of_fault hfault, Recounts, Execution.awaited_append,
        Execution.awaited_cons_of_fault hfault, Execution.awaited_nil, List.append_nil]
      exact hrecounts
  | none =>
      have htells := tells_perform hrecounts hfault
      rw [Recounts, (host.perform_eq submission).2, Execution.awaited_append,
        Execution.awaited_cons_of_returned hfault]
      exact htells

theorem performAll (hrecounts : host.Recounts origin submissions) (more : List Submission) :
    (host.performAll more).2.Recounts origin (submissions ++ more) := by
  induction more generalizing host submissions with
  | nil => rwa [List.append_nil]
  | cons submission more ih =>
      have hrest := ih (hrecounts.perform submission)
      rwa [List.append_assoc, List.singleton_append] at hrest

theorem work (hrecounts : host.Recounts origin submissions) :
    host.work.Recounts origin (submissions ++ host.core.queue.take 1) := by
  cases hqueue : host.core.queue with
  | nil => rwa [work_of_idle hqueue, List.take_nil, List.append_nil]
  | cons submission queue =>
      rw [work_of_queue hqueue]
      exact (hrecounts.perform submission).congr rfl rfl

theorem workThrough {queue : List Submission} (hrecounts : host.Recounts origin submissions)
    (hqueue : host.core.queue = queue) :
    (host.workThrough queue).Recounts origin (submissions ++ queue) := by
  induction queue generalizing host submissions with
  | nil => rwa [List.append_nil]
  | cons submission queue ih =>
      have hwork := hrecounts.work
      rw [hqueue] at hwork
      have hrest := ih hwork (by rw [core_work hqueue])
      rwa [List.append_assoc] at hrest

theorem drain (hrecounts : host.Recounts origin submissions) :
    host.drain.Recounts origin (submissions ++ host.core.queue) :=
  hrecounts.workThrough rfl

theorem announce (hrecounts : host.Recounts origin submissions) {event : Event}
    (hother : (event.entry .empty .empty Site.mainThread).fromWorker = false) :
    (host.announce event).Recounts origin submissions := by
  refine hrecounts.congr ?_ rfl
  have hlines : (host.announce event).account.lines = host.account.lines := by
    refine (List.filter_append ..).trans ?_
    rw [List.filter_singleton, hother]
    exact List.append_nil _
  exact congrArg (fun lines => { host.account with lines := lines }) hlines

theorem start (hrecounts : host.Recounts origin submissions) :
    host.start.2.Recounts origin submissions := by
  cases hstarted : host.database.started with
  | true => rwa [start_of_started hstarted]
  | false =>
      rw [start_of_stopped hstarted]
      exact (hrecounts.congr rfl rfl).announce rfl

theorem stop (hrecounts : host.Recounts origin submissions) :
    host.stop.2.Recounts origin (submissions ++ host.due .stop) := by
  cases hstarted : host.core.started with
  | false =>
      have hdue : host.due .stop = [] := by simp [due, hstarted]
      rwa [hdue, stop_of_stopped hstarted, List.append_nil]
  | true =>
      have hdue : host.due .stop = host.core.queue := by simp [due, hstarted]
      rw [hdue, stop_of_started hstarted]
      exact (hrecounts.drain.congr rfl rfl).announce rfl

theorem execute (hrecounts : host.Recounts origin submissions) (submission : Submission) :
    (host.execute submission).2.Recounts origin
      (submissions ++ host.due (.execute submission)) := by
  cases hstarted : host.core.started with
  | false =>
      have hdue : host.due (.execute submission) = [] := by simp [due, hstarted]
      rwa [hdue, execute_of_stopped hstarted, List.append_nil]
  | true =>
      have hdue : host.due (.execute submission) = host.core.queue ++ [submission] := by
        simp [due, hstarted]
      rw [hdue, execute_of_started hstarted, ← List.append_assoc]
      exact hrecounts.drain.perform submission

theorem executeMany (hrecounts : host.Recounts origin submissions) (more : List Submission) :
    (host.executeMany more).2.Recounts origin (submissions ++ host.due (.executeMany more)) := by
  rcases eq_or_ne more [] with rfl | hmore
  · rwa [due, if_pos rfl, executeMany_nil, List.append_nil]
  cases hstarted : host.core.started with
  | false =>
      have hdue : host.due (.executeMany more) = [] := by simp [due, hmore, hstarted]
      rwa [hdue, executeMany_of_stopped hstarted hmore, List.append_nil]
  | true =>
      have hdue : host.due (.executeMany more) = host.core.queue ++ more := by
        simp [due, hmore, hstarted]
      rw [hdue, executeMany_of_started hstarted hmore, ← List.append_assoc]
      exact hrecounts.drain.performAll more

theorem submit (hrecounts : host.Recounts origin submissions) (submission : Submission) :
    (host.submit submission).2.Recounts origin submissions := by
  cases hstarted : host.database.started with
  | true =>
      rw [submit_of_started hstarted]
      exact hrecounts.congr rfl rfl
  | false => rwa [submit_of_stopped hstarted]

theorem session (hrecounts : host.Recounts origin submissions) (horderly : Orderly host.database)
    (more : List Submission) :
    (host.session more).2.Recounts origin (submissions ++ host.due (.session more)) := by
  cases hstarted : host.core.started with
  | true =>
      have hdue : host.due (.session more) = [] := by simp [due, hstarted]
      rwa [hdue, session_of_started hstarted, List.append_nil]
  | false =>
      -- Nothing is queued while no worker runs, so the stop at the end finds nothing to run.
      have hcore := core_start hstarted
      have hidle : host.core.queue = [] := horderly hstarted
      let front := host.core.execution.evaluator.untilFailure host.core.catalog more
      have hstopped := (hrecounts.start.performAll front).stop
      have hnone : (host.start.2.performAll front).2.due .stop = [] := by
        rw [due, queue_performAll, hcore, hidle, ite_self]
      rw [hnone, List.append_nil] at hstopped
      rw [session_of_stopped hstarted, performUntilFailure_eq_performAll, hcore, due, hstarted,
        if_neg Bool.false_ne_true]
      exact hstopped

theorem step (hrecounts : host.Recounts origin submissions) (horderly : Orderly host.database)
    (action : Action) :
    (host.step action).2.Recounts origin (submissions ++ host.due action) := by
  cases action with
  | start =>
      rw [due, List.append_nil]
      exact hrecounts.start
  | stop => exact hrecounts.stop
  | execute submission | executeAsync submission => exact hrecounts.execute submission
  | executeMany more => exact hrecounts.executeMany more
  | submit submission =>
      rw [due, List.append_nil]
      exact hrecounts.submit submission
  | collect => exact hrecounts.drain.congr rfl rfl
  | session more => exact hrecounts.session horderly more
  | work => exact hrecounts.work

end Recounts

theorem exists_recounts_run {execution : Execution} {interpreter : Interpreter}
    {submissions : List Submission} (hfollows : host.Follows execution interpreter)
    (horderly : Orderly host.database) (hrecounts : host.Recounts origin submissions)
    (hlogged : interpreter.submissions = submissions ++ host.core.queue)
    (actions : List Action) :
    let last := (host.run actions).2
    ∃ ran, last.Recounts origin ran ∧
      (interpreter.run execution.evaluator actions).2.submissions = ran ++ last.core.queue := by
  induction actions generalizing host interpreter submissions with
  | nil => exact ⟨submissions, hrecounts, hlogged⟩
  | cons action actions ih =>
      -- The interpreter logs a text when it is queued, the host runs it when it is due.
      have hnext : (interpreter.step execution.evaluator action).2.submissions =
          submissions ++ host.due action ++ (host.step action).2.core.queue := by
        rw [Interpreter.submissions_step, hlogged, List.append_assoc, List.append_assoc,
          hfollows.due_append action]
      exact ih (hfollows.agrees action).follows (orderly_step horderly action)
        (hrecounts.step horderly action) hnext

theorem outcomes_of_logged {execution : Execution} {interpreter : Interpreter} {origin : Catalog}
    (hlogged : interpreter.Logged execution.evaluator origin) {ran queue : List Submission}
    (hran : interpreter.submissions = ran ++ queue) :
    ((interpreter.log.take ran.length).filter fun entry =>
        (execution.fault? entry.1).isNone).map Prod.snd =
      (Catalog.interpret.run origin (execution.awaited ran)).1 := by
  have hlog : interpreter.log =
      interpreter.submissions.zip (execution.evaluator.run origin interpreter.submissions).1 := by
    rw [show execution.evaluator.run origin interpreter.submissions = _ from hlogged]
    exact (List.zip_unzip interpreter.log).symm.trans (by rw [List.unzip_eq_map]; rfl)
  rw [hlog, hran, Evaluator.run_append, List.zip_append (Evaluator.length_run ..).symm,
    List.take_left' (by rw [List.length_zip, Evaluator.length_run, Nat.min_self])]
  exact execution.outcomes_run_evaluator origin ran

theorem takeJournal_debug (host : Host) :
    (host.takeJournal Level.debug.severity).1 = host.site.journal := by
  refine List.filter_eq_self.mpr fun entry _ => decide_eq_true ?_
  cases entry.level <;> decide

/-- The worker has written a block about each text that was run, and finished a span for each that
is a statement. As many lines tell of failures, and of successes, as the counters say. -/
theorem run_chronicle (site : Site) {delay : Binary64} {serialized : Bool} {database : Database}
    (hcreate : Database.create { delay := delay, workers := 1, serialized := serialized } =
      .ok database)
    (actions : List Action) :
    let execution : Execution := { delay := delay, workers := 1, serialized := serialized }
    let host : Host := { site := site, database := database }
    let interpreter : Interpreter := { catalog := site.store.catalog, owed := site.settled }
    let last := (host.run actions).2
    let log := (interpreter.run execution.evaluator actions).2.log
    ∃ ran lines, log.map Prod.fst = ran ++ last.database.queue ∧
      let texts := execution.awaited ran
      ((log.take ran.length).filter fun entry =>
          (execution.fault? entry.1).isNone).map Prod.snd =
        (Catalog.interpret.run site.store.catalog texts).1 ∧
        Blocks site.store.catalog texts lines ∧
        (last.takeJournal Level.debug.severity).1.filter Entry.fromWorker =
          site.journal.filter Entry.fromWorker ++ lines ∧
        lines.countP Entry.tellsFailure = last.stats.failed ∧
        lines.countP Entry.tellsSuccess = last.stats.total - last.stats.failed ∧
        last.site.recorder.finished =
          site.recorder.finished ++
            Trace.spans site.recorder.next site.recorder.current site.store.catalog texts := by
  intro execution host interpreter last log
  obtain rfl := eq_of_create hcreate
  have hfollows : host.Follows execution interpreter := follows_of_level rfl
  have hrecounts : host.Recounts host.account [] := .refl _
  obtain ⟨ran, hran, hlog⟩ :=
    exists_recounts_run hfollows (fun _ => rfl) hrecounts rfl actions
  have hlast := (hfollows.agrees_run actions).2
  rw [Recounts, hlast.execution_eq] at hran
  obtain ⟨-, ⟨lines, hlines, haccount⟩, hrecorder, htotal, hfailed⟩ := hran
  obtain ⟨hfailures, htold⟩ := hlines.counts
  have hfailure : last.stats.failed = lines.countP Entry.tellsFailure := by
    rw [hfailures]
    exact hfailed.trans (Nat.zero_add _)
  have hboth : last.stats.total =
      lines.countP Entry.tellsFailure + lines.countP Entry.tellsSuccess := by
    rw [htold]
    exact htotal.trans (Nat.zero_add _)
  have hlogged : interpreter.Logged execution.evaluator site.store.catalog := rfl
  refine ⟨ran, lines, hlog, ?_⟩
  intro texts
  refine ⟨?_, hlines, ?_, ?_, ?_, congrArg Trace.Recorder.finished hrecorder⟩
  · exact outcomes_of_logged (hlogged.run actions) hlog
  · rw [takeJournal_debug]
    exact haccount
  · exact hfailure.symm
  · rw [hboth, hfailure, Nat.add_sub_cancel_left]

/-- Six texts that are run in one course, over a restart, and one that is still queued. -/
theorem run_chronicle_of_mixed :
    let last := (({} : Host).run
      [.start, .execute "create table t (a)", .submit "insert into t (a) values (1)",
        .execute "delete from t", .execute "drop table t", .stop,
        .session ["create table t (b)", "select a from u"], .start, .submit "delete from t"]).2
    ∃ ran lines, Blocks .empty (({} : Execution).awaited ran) lines ∧
      lines.map Entry.event =
        ["table_created", "statement_executed", "statement_executed", "rows_deleted",
          "statement_executed", "statement_rejected", "table_replaced", "statement_executed",
          "statement_failed"] ∧
      last.database.queue = ["delete from t"] ∧ last.stats.total = 6 ∧ last.stats.failed = 2 := by
  intro last
  obtain ⟨ran, lines, -, -, hblocks, hjournal, -⟩ :=
    @run_chronicle {} .zero false {} rfl
      [.start, .execute "create table t (a)", .submit "insert into t (a) values (1)",
        .execute "delete from t", .execute "drop table t", .stop,
        .session ["create table t (b)", "select a from u"], .start, .submit "delete from t"]
  have hlines : last.site.journal.filter Entry.fromWorker = lines :=
    (congrArg _ (takeJournal_debug last)).symm.trans hjournal
  refine ⟨ran, lines, hblocks, ?_, ?_⟩
  · rw [← hlines]
    decide +kernel
  · decide +kernel

/-- A creation whose wait is interrupted leaves no trace. -/
theorem interrupted_wait_not_reported :
    let execution : Execution := { delay := Binary64.ofDecimal false 1 10 }
    let fault : Fault :=
      { title := "OverflowError"
        message := "timestamp too large to convert to C _PyTime_t" }
    let submission : Submission := { text := "create table t (a b)", fault := some fault }
    Database.create execution = .ok { execution := execution } ∧
      let ran := (Host.mk {} { execution := execution }).run [.start, .execute submission]
      ran.1 = [.ok .done, .error (.failed (.interrupted fault))] ∧
        ¬ Blocks .empty [submission.text]
          ((ran.2.takeJournal Level.debug.severity).1.filter Entry.fromWorker) := by
  intro execution fault submission
  refine ⟨rfl, rfl, fun hblocks => ?_⟩
  have hnone : (((Host.mk {} { execution := execution }).run
      [.start, .execute submission]).2.takeJournal
        Level.debug.severity).1.filter Entry.fromWorker = [] := rfl
  rw [hnone] at hblocks
  have htold := hblocks.counts.2
  contradiction

end Host

end RowStore
