import RowStore.Proofs.Catalog.Step
import RowStore.Proofs.Database.Paths
import RowStore.Proofs.Endpoint.Admission
import RowStore.Proofs.Results

namespace RowStore

open Database

theorem Catalog.interpret_ne_interrupted (catalog : Catalog) (text : String) (fault : Fault) :
    (Catalog.interpret catalog text).1 ≠ .error (.interrupted fault) := by
  cases hparse : Statement.parse text with
  | none => simp [Catalog.interpret, hparse]
  | some statement =>
      rw [Catalog.interpret_of_parse hparse, Catalog.reply_step]
      cases statement <;> cases catalog.table? _ <;>
        simp [Statement.reply, Outcome.ofReply, Catalog.missing, Failure.stamp]

namespace Host

variable {host : Host} {submission : Submission}

theorem perform_ne_interrupted (hreturned : host.core.execution.fault? submission = none)
    (fault : Fault) : (host.perform submission).1 ≠ .error (.interrupted fault) := by
  rw [(host.perform_eq submission).1, Execution.evaluator_of_returned hreturned]
  exact Catalog.interpret_ne_interrupted _ _ _

theorem perform_of_returned (hreturned : host.core.execution.fault? submission = none) :
    host.perform submission = host.perform submission.text := by
  have hplain := host.core.execution.fault?_plain submission.text
  cases hparse : Statement.parse submission.text with
  | none =>
      rw [perform_of_unparsed hreturned hparse, perform_of_unparsed hplain hparse]
      rfl
  | some statement =>
      rw [perform_of_parse hreturned hparse, perform_of_parse hplain hparse]
      rfl

theorem performAll_of_returned {submissions : List Submission}
    (hreturned : ∀ submission ∈ submissions, host.core.execution.fault? submission = none) :
    host.performAll submissions =
      host.performAll (submissions.map (Submission.plain ∘ Submission.text)) := by
  induction submissions generalizing host with
  | nil => rfl
  | cons submission submissions ih =>
      obtain ⟨hfirst, hrest⟩ := List.forall_mem_cons.mp hreturned
      have hnext := @ih (host.perform submission.text).2 (by rwa [(host.perform_eq _).2])
      rw [List.map_cons, performAll_cons, performAll_cons, perform_of_returned hfirst, hnext]
      rfl

end Host

namespace Endpoint

variable {host : Host} {execution : Execution}

/-- Nothing waits in the queue between two calls. -/
structure Serves (execution : Execution) (host : Host) : Prop where
  execution_eq : host.core.execution = execution
  idle : host.core.queue = []

namespace Serves

theorem perform (hserves : Serves execution host) (submission : Submission) :
    Serves execution (host.perform submission).2 := by
  obtain ⟨-, hcore⟩ := host.perform_eq submission
  exact ⟨by rw [hcore]; exact hserves.execution_eq, by rw [hcore]; exact hserves.idle⟩

theorem performAll (hserves : Serves execution host) (submissions : List Submission) :
    Serves execution (host.performAll submissions).2 := by
  obtain ⟨-, hcore⟩ := host.performAll_eq submissions
  exact ⟨by rw [hcore]; exact hserves.execution_eq, by rw [hcore]; exact hserves.idle⟩

theorem drain_eq (hserves : Serves execution host) : host.drain = host :=
  Host.drain_of_idle hserves.idle

theorem handle (hserves : Serves execution host) (request : Request) :
    Serves execution (handle host request).2 := by
  cases handled host request with
  | unchanged hsame => rwa [hsame]
  | executed hasks hstarted submission hhandle =>
      rw [hhandle, hserves.drain_eq]
      exact hserves.perform submission
  | executedBatch hasks hstarted submissions hhandle =>
      rw [hhandle, hserves.drain_eq]
      exact hserves.performAll submissions

theorem start (hserves : Serves execution host) : Serves execution host.start.2 := by
  cases hstarted : host.database.started with
  | true => rwa [Host.start_of_started hstarted]
  | false =>
      rw [Host.start_of_stopped hstarted]
      exact ⟨hserves.execution_eq, hserves.idle⟩

theorem stop (hserves : Serves execution host) : Serves execution host.stop.2 := by
  cases hstarted : host.database.started with
  | true =>
      rw [Host.stop_of_started hstarted, hserves.drain_eq]
      exact ⟨hserves.execution_eq, hserves.idle⟩
  | false => rwa [Host.stop_of_stopped hstarted]

theorem step (hserves : Serves execution host) (call : Call) :
    Serves execution (step host call).2 := by
  cases call with
  | request request => exact hserves.handle request
  | start => exact hserves.start
  | stop => exact hserves.stop

theorem run (hserves : Serves execution host) (calls : List Call) :
    Serves execution (run host calls).2 := by
  induction calls generalizing host with
  | nil => exact hserves
  | cons call calls ih => exact ih (hserves.step call)

end Serves

/-- What a body says about the result of a statement. -/
def Executed.Reports (executed : Executed) : Except Error Answer → Prop
  | .ok (.result rows) => executed = ⟨true, "OK", rows⟩
  | .error (.failed failure) => executed = ⟨false, failure.message, none⟩
  | _ => False

theorem Executed.ofOutcome_of_ne {outcome : Outcome}
    (hne : ∀ fault, outcome ≠ .error (.interrupted fault)) :
    ∃ executed, ofOutcome outcome = .ok executed ∧ executed.Reports outcome.answer := by
  cases outcome with
  | ok rows => exact ⟨_, rfl, rfl⟩
  | error failure =>
      cases failure with
      | interrupted fault => exact absurd rfl (hne fault)
      | malformed | unknownTable => exact ⟨_, rfl, rfl⟩

namespace Request

/-- A request that holds a text and nothing else that counts. -/
structure Executes (request : Request) (text : String) : Prop where
  asks : request.Asks .execute
  holds : request.Holds "statement" (.string text)

structure ExecutesAll (request : Request) (texts : List String) : Prop where
  asks : request.Asks .executeBatch
  holds : request.Holds "statements" (.list (texts.map .string))

/-- The waits for the statements of a request return. -/
def Awaits (request : Request) (execution : Execution) (texts : List String) : Prop :=
  ∀ submission ∈ request.submissions texts, execution.fault? submission = none

variable {limits : Limits}

def ofText (limits : Limits) (text : String) : Request :=
  { method := "POST"
    target := "/execute".toList
    body := .value (.object [("statement", .string text)])
    limits := limits }

def ofItems (limits : Limits) (items : List Json) : Request :=
  { method := "POST"
    target := "/execute/batch".toList
    body := .value (.object [("statements", .list items)])
    limits := limits }

theorem executes_ofText (text : String) : (ofText limits text).Executes text :=
  ⟨⟨rfl, List.mem_singleton_self _⟩, ⟨_, _, rfl, rfl, rfl⟩⟩

theorem asks_ofItems (items : List Json) : (ofItems limits items).Asks .executeBatch :=
  ⟨rfl, List.mem_singleton_self _⟩

theorem holds_ofItems (items : List Json) :
    (ofItems limits items).Holds "statements" (.list items) :=
  ⟨_, _, rfl, rfl, rfl⟩

theorem executesAll_ofItems (texts : List String) :
    (ofItems limits (texts.map .string)).ExecutesAll texts :=
  ⟨asks_ofItems _, holds_ofItems _⟩

theorem map_text_submissions (request : Request) (texts : List String) :
    (request.submissions texts).map Submission.text = texts := by
  refine List.ext_getElem (by simp [submissions]) fun position _ _ => ?_
  simp [submissions, submission]

end Request

theorem handle_of_executes {request : Request} {text : String} (hserves : Serves execution host)
    (hstarted : host.database.started = true) (hexecutes : request.Executes text)
    (hawaits : request.Awaits execution [text]) :
    handle host request =
      ((Executed.ofOutcome (host.perform text).1).map .executed, (host.perform text).2) := by
  have hreturned : host.core.execution.fault? (request.submission 0 text) = none := by
    rw [hserves.execution_eq]
    exact hawaits _ (List.mem_singleton_self _)
  rw [handle_of_text hexecutes.asks hexecutes.holds, execute, whenStarted_of_started hstarted,
    hserves.drain_eq, Host.perform_of_returned hreturned]
  rfl

theorem handle_of_executesAll {request : Request} {texts : List String}
    (hserves : Serves execution host) (hstarted : host.database.started = true)
    (hexecutes : request.ExecutesAll texts) (hawaits : request.Awaits execution texts) :
    let plain := texts.map Submission.plain
    handle host request =
      (((host.performAll plain).1.mapM Executed.ofOutcome).map .batch,
        (host.performAll plain).2) := by
  intro plain
  have hreturned : ∀ submission ∈ request.submissions texts,
      host.core.execution.fault? submission = none := by
    rw [hserves.execution_eq]
    exact hawaits
  have hplain : (request.submissions texts).map (Submission.plain ∘ Submission.text) = plain := by
    rw [← List.map_map, request.map_text_submissions]
  rw [handle_of_texts hexecutes.asks hexecutes.holds, executeBatch,
    whenStarted_of_started hstarted, hserves.drain_eq, Host.performAll_of_returned hreturned,
    hplain]

theorem handle_of_stopped {request : Request} (hstopped : ¬ host.database.started = true)
    (hexecutes : (∃ text, request.Executes text) ∨ ∃ texts, request.ExecutesAll texts) :
    handle host request = (.ok (.unavailable .notStarted), host) := by
  rcases hexecutes with ⟨text, hexecutes⟩ | ⟨texts, hexecutes⟩
  · rw [handle_of_text hexecutes.asks hexecutes.holds]
    exact whenStarted_of_stopped hstopped _
  · rw [handle_of_texts hexecutes.asks hexecutes.holds]
    exact whenStarted_of_stopped hstopped _

theorem run_of_executes {requests : List Request} {texts : List String}
    (hserves : Serves execution host) (hstarted : host.database.started = true)
    (hexecute : List.Forall₂ (fun request text =>
      request.Executes text ∧ request.Awaits execution [text]) requests texts) :
    let plain := texts.map Submission.plain
    run host (requests.map .request) =
      (((host.performAll plain).1.map Executed.ofOutcome).map
          (Except.map fun executed => .response (.executed executed)),
        (host.performAll plain).2) := by
  induction hexecute generalizing host with
  | nil => rfl
  | @cons request text requests texts hfirst hrest ih =>
      have hnext : (host.perform text).2.database.started = true :=
        (host.started_perform text).trans hstarted
      have hstep : step host (.request request) =
          ((Executed.ofOutcome (host.perform text).1).map
              fun executed => .response (.executed executed), (host.perform text).2) := by
        rw [step, handle_of_executes hserves hstarted hfirst.1 hfirst.2]
        cases Executed.ofOutcome (host.perform text).1 <;> rfl
      intro plain
      rw [List.map_cons, run_cons, hstep, ih (hserves.perform text) hnext]
      rfl

theorem exists_bodies (host : Host) (texts : List String) :
    ∃ bodies : List Executed,
      (host.performAll (texts.map Submission.plain)).1.map Executed.ofOutcome =
        bodies.map .ok := by
  induction texts generalizing host with
  | nil => exact ⟨[], rfl⟩
  | cons text texts ih =>
      obtain ⟨executed, hexecuted, -⟩ := Executed.ofOutcome_of_ne
        (host.perform_ne_interrupted (host.core.execution.fault?_plain text))
      obtain ⟨bodies, hbodies⟩ := ih (host.perform text).2
      exact ⟨executed :: bodies, congrArg₂ List.cons hexecuted hbodies⟩

end Endpoint

end RowStore
