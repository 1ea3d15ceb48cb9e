import RowStore.Database.Basic

/-!
A database at work on its site.

Statements are submitted to a running database, which carries them out one after another in the
order of their submission. A submitted statement waits in a queue until the worker takes it up.
Whoever asks for the result of a statement waits until everything submitted before it is done, and
so does whoever stops the database.
-/

namespace RowStore

structure Host where
  site : Site := {}
  database : Database := {}

namespace Host

open Database Journal

def record (host : Host) (kind : Option Statement.Kind) (status : Status) : Host :=
  { site := { host.site with store := host.site.store.record kind status }
    database :=
      { host.database with
        total := host.database.total + 1
        failed := host.database.failed + (if status = .error then 1 else 0) } }

def write (host : Host) (text : String) (events : List Event) : Host :=
  { host with site := host.site.write text events }

def announce (host : Host) (event : Event) : Host :=
  { host with site := host.site.announce event }

def trace (host : Host) (change : Trace.Recorder → Trace.Recorder) : Host :=
  { host with site := { host.site with recorder := change host.site.recorder } }

def spanKit : Trace.Kit Host :=
  .ofRecorder (fun host => host.site.recorder) (fun change host => host.trace change) id

def reject (host : Host) (text : String) : Outcome × Host :=
  (.error (.malformed text),
    (host.record none .error).write text [Statement.rejectedEvent])

def applied (host : Host) (statement : Statement) : Host :=
  { host with site := { host.site with store := (host.site.store.dispatch statement).2 } }

/-- What happens inside the span of a statement: it is applied, and then its failure or its own
events are written. -/
def apply (text : String) (statement : Statement) : Trace.Work Host Failure Reply := fun host =>
  let changed := host.applied statement
  match (host.site.store.dispatch statement).1 with
  | .error failure =>
      (.error (failure.stamp text),
        (changed.record (some statement.kind) .error).write text
          [Statement.failedEvent statement.kind failure])
  | .ok reply => (.ok reply, changed.write text (statement.changeEvents reply))

def carryOut (host : Host) (text : String) (statement : Statement) : Outcome × Host :=
  match Trace.statementSpan spanKit Failure.fault statement.kind.name text
      (apply text statement) host with
  | (.error failure, ended) => (.error failure, ended)
  | (.ok reply, ended) =>
      (.ok reply.rows?,
        (ended.record (some statement.kind) .success).write text
          [Statement.executedEvent statement.kind])

section CarryOut

variable (host : Host) (text : String) (statement : Statement)

def conclude : Except Failure Reply → Host
  | .error failure =>
      (host.record (some statement.kind) .error).write text
        [Statement.failedEvent statement.kind failure]
  | .ok reply =>
      ((host.write text (statement.changeEvents reply)).record
        (some statement.kind) .success).write text [Statement.executedEvent statement.kind]

def spanOf (fault : Option Fault) : Trace.Span :=
  host.site.recorder.span (Service.name ++ "." ++ statement.kind.name)
    [(Service.name ++ ".statement.kind", .string statement.kind.name),
      (Service.name ++ ".statement", .string text)] fault

theorem carryOut_eq :
    host.carryOut text statement =
      let reply := (host.site.store.dispatch statement).1
      let outcome := Outcome.ofReply text reply
      (outcome, ((host.applied statement).conclude text statement reply).trace fun recorder =>
        recorder.enter.exit
          (host.spanOf text statement (Fault.ofResult? Failure.fault outcome))) := by
  have hstore : (host.trace Trace.Recorder.enter).site.store = host.site.store := rfl
  simp only [carryOut, Trace.statementSpan, Trace.span, spanKit, Trace.Kit.ofRecorder, apply,
    hstore]
  cases (host.site.store.dispatch statement).1 <;> rfl

theorem outcome_carryOut :
    (host.carryOut text statement).1 = .ofReply text (host.site.store.dispatch statement).1 := by
  rw [carryOut_eq]

end CarryOut

def perform (host : Host) (submission : Submission) : Outcome × Host :=
  match host.database.execution.fault? submission with
  | some fault => (.error (.interrupted fault), host)
  | none =>
      match Statement.parse submission.text with
      | none => host.reject submission.text
      | some statement => host.carryOut submission.text statement

section Perform

variable {host : Host} {submission : Submission}

theorem perform_of_fault {fault : Fault}
    (hfault : host.database.execution.fault? submission = some fault) :
    host.perform submission = (.error (.interrupted fault), host) := by
  simp only [perform, hfault]

theorem perform_of_unparsed (hreturned : host.database.execution.fault? submission = none)
    (hparse : Statement.parse submission.text = none) :
    host.perform submission = host.reject submission.text := by
  simp only [perform, hreturned, hparse]

theorem perform_of_parse {statement : Statement}
    (hreturned : host.database.execution.fault? submission = none)
    (hparse : Statement.parse submission.text = some statement) :
    host.perform submission = host.carryOut submission.text statement := by
  simp only [perform, hreturned, hparse]

end Perform

def performAll (host : Host) : List Submission → List Outcome × Host
  | [] => ([], host)
  | submission :: submissions =>
      let (outcome, next) := host.perform submission
      let (outcomes, last) := next.performAll submissions
      (outcome :: outcomes, last)

@[simp] theorem performAll_nil (host : Host) : host.performAll [] = ([], host) := rfl

@[simp] theorem performAll_cons (host : Host) (submission : Submission)
    (submissions : List Submission) :
    host.performAll (submission :: submissions) =
      ((host.perform submission).1 :: ((host.perform submission).2.performAll submissions).1,
        ((host.perform submission).2.performAll submissions).2) := rfl

def performUntilFailure (host : Host) :
    List Submission → Except Failure (List (Option (List Row))) × Host
  | [] => (.ok [], host)
  | submission :: submissions =>
      match host.perform submission with
      | (.error failure, next) => (.error failure, next)
      | (.ok rows, next) =>
          match next.performUntilFailure submissions with
          | (.error failure, last) => (.error failure, last)
          | (.ok results, last) => (.ok (rows :: results), last)

def work (host : Host) : Host :=
  match host.database.queue with
  | [] => host
  | submission :: queue =>
      let (outcome, next) :=
        { host with database := { host.database with queue := queue } }.perform submission
      { next with site := { next.site with settled := next.site.settled ++ [outcome] } }

section Work

variable {host : Host} {submission : Submission} {queue : List Submission}

theorem work_of_idle (hqueue : host.database.queue = []) : host.work = host := by
  simp only [work, hqueue]

theorem work_of_cons (hqueue : host.database.queue = submission :: queue) :
    host.work =
      let (outcome, next) :=
        { host with database := { host.database with queue := queue } }.perform submission
      { next with site := { next.site with settled := next.site.settled ++ [outcome] } } := by
  simp only [work, hqueue]

end Work

def workThrough (host : Host) : (queue : List Submission) → Host
  | [] => host
  | _ :: queue => host.work.workThrough queue

@[simp] theorem workThrough_nil (host : Host) : host.workThrough [] = host := rfl

@[simp] theorem workThrough_cons (host : Host) (submission : Submission) (queue : List Submission) :
    host.workThrough (submission :: queue) = host.work.workThrough queue := rfl

def drain (host : Host) : Host := host.workThrough host.database.queue

def startedEvent (execution : Execution) : Event :=
  { level := .info
    name := "database_started"
    values :=
      [("max_workers", .int execution.workers), ("execution_delay", .real execution.delay)] }

def stoppedEvent : Event := { level := .info, name := "database_stopped" }

def start (host : Host) : Except Refusal Unit × Host :=
  if host.database.started then (.error .alreadyStarted, host)
  else
    (.ok (),
      { host with database := { host.database with started := true } }.announce
        (startedEvent host.database.execution))

/-- What was submitted is done before the database stops. Its tables stay. -/
def stop (host : Host) : Except Refusal Unit × Host :=
  if host.database.started then
    let idle := host.drain
    (.ok (),
      { idle with database := { idle.database with started := false } }.announce stoppedEvent)
  else (.error .notStarted, host)

def execute (host : Host) (submission : Submission) : Except Error (Option (List Row)) × Host :=
  if host.database.started then
    let (outcome, next) := host.drain.perform submission
    (outcome.mapError .failed, next)
  else (.error (.refused .notStarted), host)

def allResults : List Outcome → Except Failure (List (Option (List Row)))
  | [] => .ok []
  | .error failure :: _ => .error failure
  | .ok rows :: outcomes => (allResults outcomes).map (rows :: ·)

/-- Runs all the submissions, whether or not one of them fails. There is nothing to refuse if there
is nothing to submit. -/
def executeMany (host : Host) (submissions : List Submission) :
    Except Error (List (Option (List Row))) × Host :=
  if submissions = [] then (.ok [], host)
  else if host.database.started then
    let (outcomes, next) := host.drain.performAll submissions
    ((allResults outcomes).mapError .failed, next)
  else (.error (.refused .notStarted), host)

def submit (host : Host) (submission : Submission) : Except Refusal Unit × Host :=
  if host.database.started then
    (.ok (),
      { host with database := { host.database with queue := host.database.queue ++ [submission] } })
  else (.error .notStarted, host)

/-- Hands out the outcomes of what was submitted, each of them once. -/
def collect (host : Host) : List Outcome × Host :=
  let idle := host.drain
  (idle.site.settled, { idle with site := { idle.site with settled := [] } })

def session (host : Host) (submissions : List Submission) :
    Except Error (List (Option (List Row))) × Host :=
  match host.start with
  | (.error refusal, same) => (.error (.refused refusal), same)
  | (.ok (), running) =>
      let (results, last) := running.performUntilFailure submissions
      (results.mapError .failed, last.stop.2)

section Actions

variable {host : Host}

theorem start_of_started (hstarted : host.database.started = true) :
    host.start = (.error .alreadyStarted, host) :=
  if_pos hstarted

theorem start_of_stopped (hstopped : host.database.started = false) :
    host.start =
      (.ok (),
        { host with database := { host.database with started := true } }.announce
          (startedEvent host.database.execution)) :=
  if_neg (by simp [hstopped])

theorem stop_of_started (hstarted : host.database.started = true) :
    host.stop =
      (.ok (),
        { host.drain with database := { host.drain.database with started := false } }.announce
          stoppedEvent) :=
  if_pos hstarted

theorem stop_of_stopped (hstopped : host.database.started = false) :
    host.stop = (.error .notStarted, host) :=
  if_neg (by simp [hstopped])

theorem execute_of_started (hstarted : host.database.started = true) (submission : Submission) :
    host.execute submission =
      ((host.drain.perform submission).1.mapError .failed,
        (host.drain.perform submission).2) :=
  if_pos hstarted

theorem execute_of_stopped (hstopped : host.database.started = false) (submission : Submission) :
    host.execute submission = (.error (.refused .notStarted), host) :=
  if_neg (by simp [hstopped])

theorem executeMany_nil (host : Host) : host.executeMany [] = (.ok [], host) := rfl

variable {submissions : List Submission}

theorem executeMany_of_started (hstarted : host.database.started = true)
    (hsubmissions : submissions ≠ []) :
    host.executeMany submissions =
      ((allResults (host.drain.performAll submissions).1).mapError .failed,
        (host.drain.performAll submissions).2) := by
  rw [executeMany, if_neg hsubmissions, if_pos hstarted]

theorem executeMany_of_stopped (hstopped : host.database.started = false)
    (hsubmissions : submissions ≠ []) :
    host.executeMany submissions = (.error (.refused .notStarted), host) := by
  rw [executeMany, if_neg hsubmissions, if_neg (by simp [hstopped])]

theorem submit_of_started (hstarted : host.database.started = true) (submission : Submission) :
    host.submit submission =
      (.ok (),
        { host with
          database := { host.database with queue := host.database.queue ++ [submission] } }) :=
  if_pos hstarted

theorem submit_of_stopped (hstopped : host.database.started = false) (submission : Submission) :
    host.submit submission = (.error .notStarted, host) :=
  if_neg (by simp [hstopped])

theorem session_of_started (hstarted : host.database.started = true)
    (submissions : List Submission) :
    host.session submissions = (.error (.refused .alreadyStarted), host) := by
  rw [session, start_of_started hstarted]

theorem session_of_stopped (hstopped : host.database.started = false)
    (submissions : List Submission) :
    host.session submissions =
      ((host.start.2.performUntilFailure submissions).1.mapError .failed,
        (host.start.2.performUntilFailure submissions).2.stop.2) := by
  rw [session, start_of_stopped hstopped]

end Actions

def acknowledged : Except Refusal Unit → Except Error Answer
  | .ok () => .ok .done
  | .error refusal => .error (.refused refusal)

def step (host : Host) : Action → Except Error Answer × Host
  | .start => (acknowledged host.start.1, host.start.2)
  | .stop => (acknowledged host.stop.1, host.stop.2)
  | .execute submission | .executeAsync submission =>
      ((host.execute submission).1.map .result, (host.execute submission).2)
  | .executeMany submissions =>
      ((host.executeMany submissions).1.map .results, (host.executeMany submissions).2)
  | .submit submission => (acknowledged (host.submit submission).1, (host.submit submission).2)
  | .collect => (.ok (.outcomes host.collect.1), host.collect.2)
  | .session submissions =>
      ((host.session submissions).1.map .results, (host.session submissions).2)
  | .work => (.ok .done, host.work)

def run (host : Host) : List Action → List (Except Error Answer) × Host
  | [] => ([], host)
  | action :: actions =>
      let (answer, next) := host.step action
      let (answers, last) := next.run actions
      (answer :: answers, last)

@[simp] theorem run_nil (host : Host) : host.run [] = ([], host) := rfl

@[simp] theorem run_cons (host : Host) (action : Action) (actions : List Action) :
    host.run (action :: actions) =
      ((host.step action).1 :: ((host.step action).2.run actions).1,
        ((host.step action).2.run actions).2) := rfl

def snapshot (host : Host) : List (String × Table) := host.site.store.catalog.snapshot

def stats (host : Host) : Stats :=
  { started := host.database.started
    tables := host.site.store.catalog.tableCount
    rows := host.site.store.catalog.counts
    total := host.database.total
    failed := host.database.failed }

def takeJournal (host : Host) (threshold : Nat) : List Entry × Host :=
  (host.site.journal.filter (·.passes threshold),
    { host with site := { host.site with journal := [] } })

def takeSpans (host : Host) : List Trace.Span × Host :=
  (host.site.recorder.finished, host.trace fun recorder => { recorder with finished := [] })

end Host

end RowStore
